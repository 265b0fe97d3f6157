import WikiArticle.Proofs.Body.History

/-! Leaving the open block. A blank line or an opening fence ends the container or table that it stands behind, a
    closing fence the literal block, and nothing of the block is kept. The end of the lines ends it like
    such a line, so a body can be cut where a blank line stands outside every section. -/

namespace WikiArticle
namespace Context

/-- What ends the open container, table or literal block. -/
def blockEnds (c : Context) : List Fragment :=
  c.container.toList.map .containerEnd ++ (if c.inTable then [.tableEnd] else [])
    ++ (if c.inLiteral then [.screenEnd] else [])

/-- The step out of the open container, table or literal block. -/
def leave (c : Context) : Step := ⟨Body.outside c.depth none, c.blockEnds⟩

end Context

namespace Body

/-! ### Contexts behind lines -/

theorem context_lines (base : Option Text) (lines : List Text) :
    (pushAll base lines .settled).context = (lines.map Text.trimEnd).foldl behind .settled :=
  context_pushAll base lines (Single.outside 0 none)

theorem single_lines (base : Option Text) (lines : List Text) : Single (pushAll base lines .settled).context := by
  rw [context_lines]
  exact single_foldl _ (Single.outside 0 none)

theorem inLiteral_lines (base : Option Text) (lines : List Text) :
    (pushAll base lines .settled).context.inLiteral = true ↔ InLiteral (lines.map Text.trimEnd) := by
  rw [context_lines, inLiteral_foldl]
  exact foldl_literalBehind _

theorem depth_lines (base : Option Text) (lines : List Text) :
    (pushAll base lines .settled).context.depth = lastLevel (lines.map Text.trimEnd) := by
  rw [context_lines, depth_foldl]

/-! ### Lines that end a block -/

theorem trimEnd_of_isAllBlank {b : Text} (hb : Text.isAllBlank b = true) : Text.trimEnd b = [] :=
  Text.trimEnd_append_of_isAllBlank [] hb

theorem ofText_of_isAllBlank {b : Text} (hb : Text.isAllBlank b = true) : Line.ofText (Text.trimEnd b) = .blank := by
  rw [trimEnd_of_isAllBlank hb]
  rfl

theorem push_leave (base : Option Text) {line : Text} {c : Context} (hc : Single c) (hout : c.inLiteral = false)
    (hline : Line.ofText (Text.trimEnd line) = .blank ∨ Line.ofText (Text.trimEnd line) = .fence .opening) :
    c.push base line = c.leave.andThen (Context.plainLine base (Text.trimEnd line)) := by
  cases hc with
  | outside d o =>
    -- The move of the line leaves the container first, and outside it there is none to leave.
    rw [push_outside]
    rcases hline with hline | hline
    all_goals
      simp only [Context.plainLine, hline, Step.andThen]
      cases o <;> rfl
  | table d n =>
    rw [push_table]
    rcases hline with hline | hline
    all_goals
      simp only [Context.tableLine, hline]
      rfl
  | literal d => cases hout

theorem push_blank (base : Option Text) {b : Text} {c : Context} (hc : Single c) (hout : c.inLiteral = false)
    (hb : Text.isAllBlank b = true) : c.push base b = c.leave := by
  have hline := ofText_of_isAllBlank hb
  have hstay : (outside c.depth none).plainLine base (Text.trimEnd b) = .stay (outside c.depth none) := by
    simp only [Context.plainLine, hline]
    rfl
  rw [push_leave base hc hout (Or.inl hline)]
  exact (Step.andThen_congr hstay).trans (Step.andThen_stay _)

theorem push_opening (base : Option Text) {c : Context} (hc : Single c) (hout : c.inLiteral = false) :
    c.push base Fence.opening.text = c.leave.andThen Context.openLiteral :=
  push_leave base hc hout (Or.inr rfl)

theorem push_closing (base : Option Text) {c : Context} (hc : Single c) (hin : c.inLiteral = true) :
    c.push base Fence.closing.text = c.leave := by
  cases hc with
  | outside d o => cases hin
  | table d n => cases hin
  | literal d => rfl

theorem finish_leave {c : Context} (hc : Single c) : finish c = c.leave.andThen finish := by
  cases hc with
  | outside d o => cases o <;> rfl
  | table d n => rfl
  | literal d => rfl

/-! ### Rows at the end -/

/-- The last line that is no comment is a row, and it stands outside literal blocks. -/
def EndsInRow (ls : List Text) : Prop :=
  ∃ before row after, ls = before ++ row :: after ∧ Row.isRow row = true ∧ (∀ l ∈ after, isComment l = true) ∧
    ¬InLiteral before

theorem not_isComment_of_isRow {line : Text} (h : Row.isRow line = true) : isComment line = false := by
  obtain ⟨rest, rfl⟩ := List.isPrefixOf_iff_prefix.mp h
  rfl

theorem endsInRow_concat_comment {ls : List Text} {l : Text} (hl : isComment l = true) :
    EndsInRow (ls ++ [l]) ↔ EndsInRow ls := by
  constructor
  · rintro ⟨before, row, after, hls, hrow, hafter, hbefore⟩
    rcases concat_split hls with ⟨-, rfl, -⟩ | ⟨rest, rfl, hinit⟩
    · rw [not_isComment_of_isRow hrow] at hl
      cases hl
    · exact ⟨before, row, rest, hinit, hrow, (List.forall_mem_append.mp hafter).1, hbefore⟩
  · rintro ⟨before, row, after, rfl, hrow, hafter, hbefore⟩
    refine ⟨before, row, after ++ [l], by rw [List.append_assoc, List.cons_append], hrow, ?_, hbefore⟩
    exact List.forall_mem_append.mpr ⟨hafter, List.forall_mem_singleton.mpr hl⟩

theorem endsInRow_concat {ls : List Text} {l : Text} (hl : isComment l = false) :
    EndsInRow (ls ++ [l]) ↔ Row.isRow l = true ∧ ¬InLiteral ls := by
  constructor
  · rintro ⟨before, row, after, hls, hrow, hafter, hbefore⟩
    rcases concat_split hls with ⟨rfl, rfl, -⟩ | ⟨rest, rfl, -⟩
    · exact ⟨hrow, hbefore⟩
    · rw [hafter l (List.mem_append_right _ (List.mem_singleton_self l))] at hl
      cases hl
  · rintro ⟨hrow, hls⟩
    exact ⟨ls, l, [], rfl, hrow, nofun, hls⟩

theorem columns_pos_behind {c : Context} (hc : Single c) {line : Text} (hline : isComment line = false) :
    0 < (behind c line).columns ↔ Row.isRow line = true ∧ c.inLiteral = false := by
  cases hlit : c.inLiteral with
  | true =>
    have hcolumns : (behind c line).columns = 0 := by
      rw [behind, if_pos hlit]
      exact (hc.inLiteral hlit).2
    simp [hcolumns]
  | false =>
    cases hbehind : (behind c line).inLiteral with
    | false => rw [columns_pos_iff hc hline hbehind, and_iff_left rfl]
    | true =>
      have hopening : line = Fence.opening.text := by
        rw [inLiteral_behind, hlit] at hbehind
        simpa [Place.literalBehind] using hbehind
      have hrow : Row.isRow Fence.opening.text = false := rfl
      rw [((single_behind hc line).inLiteral hbehind).2, hopening, hrow]
      simp

theorem columns_pos_foldl (ls : List Text) : 0 < (ls.foldl behind .settled).columns ↔ EndsInRow ls := by
  induction ls using List.reverseRecOn with
  | nil =>
    refine ⟨nofun, ?_⟩
    rintro ⟨before, row, after, h, -⟩
    simp at h
  | append_singleton ls l ih =>
    rw [List.foldl_append, List.foldl_cons, List.foldl_nil]
    by_cases hl : isComment l = true
    · rw [behind_comment _ hl, endsInRow_concat_comment hl, ih]
    · rw [Bool.not_eq_true] at hl
      have hsingle : Single (ls.foldl behind .settled) := single_foldl ls (Single.outside 0 none)
      rw [columns_pos_behind hsingle hl, endsInRow_concat hl, ← foldl_literalBehind, inLiteral_foldl, Bool.not_eq_true]
      rfl

/-! ### The end of the lines -/

theorem fragments_append (base : Option Text) (as bs : List Text) : fragments base (as ++ bs) =
    (pushAll base as .settled).written ++
      ((pushAll base bs (pushAll base as .settled).context).andThen finish).written := by
  rw [fragments, pushAll_append, Step.andThen_assoc]
  rfl

theorem ofLines_concat_leave (base : Option Text) {lines : List Text} {line : Text}
    (hline : (pushAll base lines .settled).context.push base line = (pushAll base lines .settled).context.leave) :
    ofLines base lines = ofLines base (lines ++ [line]) := by
  have hone : pushAll base [line] (pushAll base lines .settled).context =
      (pushAll base lines .settled).context.leave := (Step.andThen_stay _).trans hline
  rw [ofLines, ofLines, fragments_append, hone, ← finish_leave (single_lines base lines)]
  rfl

/-- The body of some lines is that of the same lines and one more, which ends the open block: a closing fence
    behind lines that end in a literal block, a blank line behind any others. The lines are warned of if
    they end in a literal block or behind a row, and of one of these only. -/
theorem ofLines_concat_end (base : Option Text) (lines : List Text) :
    let c := (pushAll base lines .settled).context
    (c.inLiteral = true → ofLines base lines = ofLines base (lines ++ [Fence.closing.text])) ∧
    (c.inLiteral = false → ∀ b, Text.isAllBlank b = true → ofLines base lines = ofLines base (lines ++ [b])) ∧
    (c.inLiteral = true → warningsOfLines base lines = [.unclosedLiteral]) ∧
    (EndsInRow (lines.map Text.trimEnd) → warningsOfLines base lines = [.unclosedTable]) ∧
    (c.inLiteral = false → ¬EndsInRow (lines.map Text.trimEnd) → warningsOfLines base lines = []) := by
  intro c
  have hc : Single c := single_lines base lines
  have hcolumns : 0 < c.columns ↔ EndsInRow (lines.map Text.trimEnd) := by
    rw [← columns_pos_foldl, ← context_lines base]
  have hwarnings : warningsOfLines base lines = warnings c := rfl
  refine ⟨fun hin => ofLines_concat_leave base (push_closing base hc hin),
    fun hout b hb => ofLines_concat_leave base (push_blank base hc hout hb), fun hin => ?_, fun hrow => ?_,
    fun hout hrow => ?_⟩
  · have htable : c.inTable = false := by simp [Context.inTable, (hc.inLiteral hin).2]
    simp [hwarnings, warnings, hin, htable]
  · have hpos : 0 < c.columns := hcolumns.mpr hrow
    have htable : c.inTable = true := decide_eq_true hpos
    have hout : c.inLiteral = false := by
      by_contra hin
      exact hpos.ne' (hc.inLiteral (eq_true_of_ne_false hin)).2
    simp [hwarnings, warnings, hout, htable]
  · have htable : c.inTable = false := decide_eq_false fun hpos => hrow (hcolumns.mp hpos)
    simp [hwarnings, warnings, hout, htable]

/-! ### Bodies one after the other -/

/-- A body can be cut at a blank line, if no heading stands before it and no literal block is open there: the lines
    on both sides make their own bodies, and these follow one another. -/
theorem ofLines_append_blank (base : Option Text) {before : List Text} (after : List Text) {b : Text}
    (hheadings : ∀ l ∈ linesOutside false (before.map Text.trimEnd), headingLevel? l = none)
    (hclosed : ¬InLiteral (before.map Text.trimEnd)) (hb : Text.isAllBlank b = true) :
    ofLines base (before ++ b :: after) = ofLines base before ++ ofLines base after := by
  have hc := single_lines base before
  have hout : (pushAll base before .settled).context.inLiteral = false := by
    rwa [← inLiteral_lines base, Bool.not_eq_true] at hclosed
  have hdepth : (pushAll base before .settled).context.depth = 0 := by
    have hnone : (linesOutside false (before.map Text.trimEnd)).filterMap headingLevel? = [] :=
      List.filterMap_eq_nil_iff.mpr hheadings
    rw [depth_lines, lastLevel, hnone]
    rfl
  have hbefore : fragments base before = (pushAll base before .settled).written ++
      (finish (pushAll base before .settled).context).written := rfl
  rw [ofLines, ofLines, ofLines, ← Fragment.textOf_append, fragments_append, hbefore, List.append_assoc]
  -- Behind the blank line everything is settled, whatever was open before it.
  generalize (pushAll base before .settled).context = c at hc hout hdepth ⊢
  have hleave : c.leave = ⟨.settled, c.blockEnds⟩ := by
    rw [Context.leave, hdepth]
    rfl
  have hfinish : (finish c).written = c.blockEnds := by
    rw [finish_leave hc, hleave]
    exact List.append_nil _
  rw [pushAll_cons, push_blank base hc hout hb, hleave, hfinish, Step.andThen_assoc]
  rfl

/-- A row, a comment, a literal block with a line like a heading in it, and an item of a list. -/
def rowsAndItem : List Text :=
  ["|| a ||".toList, "#c".toList, Fence.opening.text, "= raw =".toList, Fence.closing.text, "* b".toList]

theorem ofLines_rowsAndItem : (∀ l ∈ linesOutside false (rowsAndItem.map Text.trimEnd), headingLevel? l = none) ∧
    ¬InLiteral (rowsAndItem.map Text.trimEnd) ∧
    ofLines none (rowsAndItem ++ [] :: ["= A =".toList, "* d".toList]) =
      ofLines none rowsAndItem ++ ofLines none ["= A =".toList, "* d".toList] := by
  have hheadings : ∀ l ∈ linesOutside false (rowsAndItem.map Text.trimEnd), headingLevel? l = none := by decide
  have hclosed : ¬InLiteral (rowsAndItem.map Text.trimEnd) := by
    rw [← foldl_literalBehind]
    decide
  exact ⟨hheadings, hclosed, ofLines_append_blank none _ hheadings hclosed rfl⟩

end Body
end WikiArticle
