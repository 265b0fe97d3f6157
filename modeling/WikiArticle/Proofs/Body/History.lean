import Mathlib.Data.List.DropRight
import WikiArticle.Proofs.Body.Place

/-! What is open behind some lines, told from the lines alone. Fences decide whether it is a literal block, the
    last heading how many sections there are, and the last line that is no comment what else is open. -/

namespace WikiArticle
namespace Body

/-! ### Lists -/

/-- An element of a list with one more at its end is that one, or one of the list. -/
theorem concat_split {α : Type} {ls before after : List α} {l x : α} (h : ls ++ [l] = before ++ x :: after) :
    ls = before ∧ l = x ∧ after = [] ∨ ∃ rest, after = rest ++ [l] ∧ ls = before ++ x :: rest := by
  rcases List.eq_nil_or_concat after with rfl | ⟨rest, m, rfl⟩
  · obtain ⟨hinit, hlast⟩ := List.append_inj' h rfl
    exact Or.inl ⟨hinit, List.singleton_inj.mp hlast, rfl⟩
  · rw [List.concat_eq_append, ← List.cons_append, ← List.append_assoc] at h
    obtain ⟨hinit, hlast⟩ := List.append_inj' h rfl
    obtain rfl := List.singleton_inj.mp hlast
    exact Or.inr ⟨rest, List.concat_eq_append, hinit⟩

/-! ### One line -/

/-- What is open behind a line that stands in the context. -/
def behind (c : Context) (line : Text) : Context :=
  if c.inLiteral then { c with inLiteral := line != Fence.closing.text }
  else match Line.ofText line with
    | .comment => c
    | .row => ⟨c.depth, none, false, if c.columns = 0 then Row.columns line else c.columns⟩
    | .fence .opening => ⟨c.depth, none, true, 0⟩
    | .heading level _ => outside level none
    | .item kind _ => outside c.depth (some (.list kind))
    | .fence .closing | .prose => outside c.depth (some .paragraph)
    | .blank | .picture _ => outside c.depth none

theorem context_plainLine (base : Option Text) (line : Text) (d : Nat) (o : Option Container) :
    ((outside d o).plainLine base line).context = behind (outside d o) line := by
  have hlit : (outside d o).inLiteral = false := rfl
  unfold Context.plainLine behind
  rw [hlit, if_neg Bool.false_ne_true]
  cases hline : Line.ofText line with
  | comment => rfl
  | heading level title => exact congrArg Step.context (openSection_outside o title (level_of_heading hline).1)
  | row =>
    have hcolumns : (outside d o).columns = 0 := rfl
    simp only [Context.openTable, Context.addRow, Step.context_andThen, context_setContainer, hcolumns, if_true]
    rfl
  | fence side =>
    cases side with
    | opening =>
      simp only [Context.openLiteral, Step.context_andThen, context_setContainer]
      rfl
    | closing => exact context_writeIn d o _ _
  | blank => exact context_setContainer d o none
  | picture url => exact context_setContainer d o none
  | item kind text => exact context_writeIn d o _ _
  | prose => exact context_writeIn d o _ _

theorem context_push (base : Option Text) (line : Text) {c : Context} (hc : Single c) :
    (Context.push base line c).context = behind c (Text.trimEnd line) := by
  cases hc with
  | outside d o => exact context_plainLine base (Text.trimEnd line) d o
  | table d n =>
    -- A line that ends the table is taken as outside it, and what it leads to does not depend on the columns.
    have hplain := context_plainLine base (Text.trimEnd line) d none
    have hlit : (outside d none).inLiteral = false := rfl
    rw [push_table]
    unfold Context.tableLine behind
    unfold behind at hplain
    rw [hlit, if_neg Bool.false_ne_true] at hplain
    rw [if_neg Bool.false_ne_true]
    cases hline : Line.ofText (Text.trimEnd line) with
    | row => rfl
    | comment => rfl
    | fence side =>
      rw [hline] at hplain
      cases side <;> exact hplain
    | _ =>
      rw [hline] at hplain
      exact hplain
  | literal d =>
    rw [push_literal]
    by_cases hline : Text.trimEnd line = Fence.closing.text
    · simp [Context.literalLine, Context.closeLiteral, Fence.closes, behind, hline]
    · simp [Context.literalLine, Fence.closes, behind, hline]

theorem context_pushAll (base : Option Text) (lines : List Text) {c : Context} (hc : Single c) :
    (pushAll base lines c).context = (lines.map Text.trimEnd).foldl behind c := by
  induction lines generalizing c with
  | nil => rfl
  | cons line lines ih =>
    rw [pushAll_cons, Step.context_andThen, ih (place_push base line hc).1, context_push base line hc, List.map_cons,
      List.foldl_cons]

/-! ### Literal blocks -/

/-- The lines end in a literal block: one of them opens it, and none behind that one ends it. -/
def InLiteral (ls : List Text) : Prop :=
  ∃ before after, ls = before ++ Fence.opening.text :: after ∧ Fence.closing.text ∉ after

theorem inLiteral_behind (c : Context) (line : Text) :
    (behind c line).inLiteral = Place.literalBehind c.inLiteral line := by
  unfold behind
  split
  · rename_i hlit
    rw [hlit]
    rfl
  · rename_i hlit
    have hlit : c.inLiteral = false := by simpa using hlit
    rw [hlit]
    split
    · rename_i hline
      rw [hlit, literalBehind_of_ne (by simp [hline])]
    · rename_i hline
      rw [literalBehind_of_ne (by simp [hline])]
    · rename_i hline
      rw [ofText_fence_iff.mp hline]
      rfl
    all_goals
      rename_i hline
      rw [literalBehind_of_ne (by simp [hline])]
      rfl

theorem inLiteral_foldl (ls : List Text) (c : Context) :
    (ls.foldl behind c).inLiteral = ls.foldl Place.literalBehind c.inLiteral := by
  induction ls generalizing c with
  | nil => rfl
  | cons l ls ih => rw [List.foldl_cons, List.foldl_cons, ih, inLiteral_behind]

theorem inLiteral_concat (ls : List Text) (l : Text) :
    InLiteral (ls ++ [l]) ↔ l = Fence.opening.text ∨ InLiteral ls ∧ l ≠ Fence.closing.text := by
  constructor
  · rintro ⟨before, after, hls, hafter⟩
    rcases concat_split hls with ⟨-, hl, -⟩ | ⟨rest, rfl, hinit⟩
    · exact Or.inl hl
    · rw [List.mem_append, not_or] at hafter
      exact Or.inr ⟨⟨before, rest, hinit, hafter.1⟩, fun e => hafter.2 (by rw [e]; exact List.mem_singleton_self _)⟩
  · rintro (rfl | ⟨⟨before, after, rfl, hafter⟩, hl⟩)
    · exact ⟨ls, [], rfl, List.not_mem_nil⟩
    · refine ⟨before, after ++ [l], by rw [List.append_assoc, List.cons_append], ?_⟩
      rw [List.mem_append, List.mem_singleton, not_or]
      exact ⟨hafter, Ne.symm hl⟩

theorem literalBehind_iff {b : Bool} {l : Text} : Place.literalBehind b l = true ↔
    l = Fence.opening.text ∨ b = true ∧ l ≠ Fence.closing.text := by
  have hne : Fence.opening.text ≠ Fence.closing.text := by decide
  cases b with
  | false => simp [Place.literalBehind]
  | true =>
    have hopen : l = Fence.opening.text → l ≠ Fence.closing.text := fun h e => hne (h.symm.trans e)
    simp only [Place.literalBehind, if_true, bne_iff_ne, true_and]
    exact ⟨Or.inr, fun h => h.elim hopen id⟩

/-- The fences alone tell whether the lines end in a literal block. -/
theorem foldl_literalBehind (ls : List Text) : ls.foldl Place.literalBehind false = true ↔ InLiteral ls := by
  induction ls using List.reverseRecOn with
  | nil =>
    refine ⟨nofun, ?_⟩
    rintro ⟨before, after, h, -⟩
    simp at h
  | append_singleton ls l ih =>
    rw [List.foldl_append, List.foldl_cons, List.foldl_nil, literalBehind_iff, inLiteral_concat, ih]

/-! ### Sections -/

/-- The lines that stand outside literal blocks, where the first of them stands in one or not. -/
def linesOutside : Bool → List Text → List Text
  | _, [] => []
  | inLiteral, line :: ls =>
    (if inLiteral then [] else [line]) ++ linesOutside (Place.literalBehind inLiteral line) ls

/-- The level of the last heading outside literal blocks, zero if there is none. -/
def lastLevel (ls : List Text) : Nat := ((linesOutside false ls).filterMap headingLevel?).getLast?.getD 0

theorem linesOutside_concat (b : Bool) (ls : List Text) (l : Text) : linesOutside b (ls ++ [l]) =
    linesOutside b ls ++ if ls.foldl Place.literalBehind b then [] else [l] := by
  induction ls generalizing b with
  | nil => exact List.append_nil _
  | cons m ls ih => rw [List.cons_append, linesOutside, linesOutside, ih, List.append_assoc, List.foldl_cons]

theorem lastLevel_concat (ls : List Text) (l : Text) : lastLevel (ls ++ [l]) =
    if ls.foldl Place.literalBehind false then lastLevel ls else (headingLevel? l).getD (lastLevel ls) := by
  unfold lastLevel
  rw [linesOutside_concat]
  split
  · rw [List.append_nil]
  · rw [List.filterMap_append, List.getLast?_append]
    cases hl : headingLevel? l <;> simp [hl]

theorem depth_behind (c : Context) (line : Text) :
    (behind c line).depth = if c.inLiteral then c.depth else (headingLevel? line).getD c.depth := by
  unfold behind headingLevel?
  split
  · rfl
  · split <;> simp [outside, *]

theorem depth_foldl (ls : List Text) : (ls.foldl behind .settled).depth = lastLevel ls := by
  induction ls using List.reverseRecOn with
  | nil => rfl
  | append_singleton ls l ih =>
    rw [List.foldl_append, List.foldl_cons, List.foldl_nil, depth_behind, inLiteral_foldl, ih, lastLevel_concat]
    rfl

/-! ### Tables, paragraphs and lists -/

theorem single_behind {c : Context} (hc : Single c) (line : Text) : Single (behind c line) := by
  unfold behind
  split
  · rename_i hlit
    cases hc with
    | outside d o => cases hlit
    | table d n => cases hlit
    | literal d =>
      cases line != Fence.closing.text with
      | false => exact Single.outside d none
      | true => exact Single.literal d
  · split
    · exact hc
    · obtain ⟨n, hn⟩ : ∃ n, (if c.columns = 0 then Row.columns line else c.columns) = n + 1 := by
        split
        · exact exists_columns line
        · exact Nat.exists_eq_succ_of_ne_zero ‹_›
      rw [hn]
      exact Single.table c.depth n
    · exact Single.literal c.depth
    all_goals exact Single.outside _ _

theorem single_foldl (ls : List Text) {c : Context} (hc : Single c) : Single (ls.foldl behind c) := by
  induction ls generalizing c with
  | nil => exact hc
  | cons l ls ih => exact ih (single_behind hc l)

theorem Single.inLiteral {c : Context} (hc : Single c) (h : c.inLiteral = true) : c.container = none ∧ c.columns = 0 := by
  cases hc with
  | literal d => exact ⟨rfl, rfl⟩
  | outside d o => cases h
  | table d n => cases h

theorem behind_comment (c : Context) {line : Text} (h : isComment line = true) : behind c line = c := by
  have hline : Line.ofText line = .comment := ofText_comment_iff.mpr h
  unfold behind
  split
  · rename_i hlit
    have hne : (line != Fence.closing.text) = true := by
      rw [bne_iff_ne]
      rintro rfl
      cases h
    rw [hne, ← hlit]
  · rw [hline]

theorem foldl_comments (c : Context) {ls : List Text} (h : ∀ l ∈ ls, isComment l = true) : ls.foldl behind c = c := by
  induction ls with
  | nil => rfl
  | cons l ls ih =>
    rw [List.foldl_cons, behind_comment c (h l List.mem_cons_self)]
    exact ih fun m hm => h m (List.mem_cons_of_mem _ hm)

/-- The rows that the lines end with, where comments do not count. -/
def rowsAtEnd (ls : List Text) : List Text := (ls.filter fun l => !isComment l).rtakeWhile Row.isRow

theorem rowsAtEnd_concat (ls : List Text) (l : Text) : rowsAtEnd (ls ++ [l]) =
    if isComment l then rowsAtEnd ls else if Row.isRow l then rowsAtEnd ls ++ [l] else [] := by
  by_cases hcomment : isComment l = true
  · simp [rowsAtEnd, hcomment]
  · simp [rowsAtEnd, hcomment, List.rtakeWhile_concat]

theorem eq_closing_of_behind {c : Context} {line : Text} (hlit : c.inLiteral = true)
    (h : (behind c line).inLiteral = false) : line = Fence.closing.text := by
  rw [inLiteral_behind, hlit] at h
  simpa [Place.literalBehind] using h

theorem columns_behind {c : Context} (hc : Single c) {line : Text} (hline : isComment line = false)
    (h : (behind c line).inLiteral = false) : (behind c line).columns =
      if Row.isRow line then (if c.columns = 0 then Row.columns line else c.columns) else 0 := by
  cases hlit : c.inLiteral with
  | true =>
    obtain rfl := eq_closing_of_behind hlit h
    have hrow : Row.isRow Fence.closing.text = false := rfl
    rw [hrow, if_neg Bool.false_ne_true, behind, if_pos hlit]
    exact (hc.inLiteral hlit).2
  | false =>
    have hcomment : Line.ofText line ≠ .comment := fun e => by simp [ofText_comment_iff.mp e] at hline
    rw [behind, if_neg (by simp [hlit])]
    by_cases hrow : Row.isRow line = true
    · rw [if_pos hrow, ofText_row_iff.mpr hrow]
    · rw [if_neg hrow]
      split
      · exact absurd ‹_› hcomment
      · exact absurd (ofText_row_iff.mp ‹_›) hrow
      all_goals rfl

theorem columns_pos_iff {c : Context} (hc : Single c) {line : Text} (hline : isComment line = false)
    (h : (behind c line).inLiteral = false) : 0 < (behind c line).columns ↔ Row.isRow line = true := by
  have hpos := Row.one_le_columns line
  rw [columns_behind hc hline h]
  by_cases hrow : Row.isRow line = true
  · simp only [hrow, if_true, iff_true]
    split <;> omega
  · simp [hrow]

/-- The columns of the open table are those that its first row asks for. -/
theorem columns_foldl {ls : List Text} (h : (ls.foldl behind .settled).inLiteral = false) :
    (ls.foldl behind .settled).columns = ((rowsAtEnd ls).head?.map Row.columns).getD 0 := by
  induction ls using List.reverseRecOn with
  | nil => rfl
  | append_singleton ls l ih =>
    have hsingle : Single (ls.foldl behind .settled) := single_foldl ls (Single.outside 0 none)
    rw [List.foldl_append, List.foldl_cons, List.foldl_nil] at h ⊢
    rw [rowsAtEnd_concat]
    by_cases hcomment : isComment l = true
    · rw [behind_comment _ hcomment] at h ⊢
      rw [if_pos hcomment]
      exact ih h
    · rw [if_neg hcomment, columns_behind hsingle (by simpa using hcomment) h]
      by_cases hrow : Row.isRow l = true
      · -- A row does not end a literal block, so the lines before it have ended theirs.
        have hlit : (ls.foldl behind .settled).inLiteral = false := by
          by_contra hlit
          have hlit : (ls.foldl behind .settled).inLiteral = true := by simpa using hlit
          rw [eq_closing_of_behind hlit h] at hrow
          cases hrow
        rw [if_pos hrow, if_pos hrow, ih hlit]
        cases rowsAtEnd ls with
        | nil => rfl
        | cons first rows =>
          have hpos : Row.columns first ≠ 0 := Nat.one_le_iff_ne_zero.mp (Row.one_le_columns first)
          exact if_neg hpos
      · rw [if_neg hrow, if_neg hrow]
        rfl

theorem container_behind {c : Context} (hc : Single c) {line : Text} (hline : isComment line = false)
    (h : (behind c line).inLiteral = false) :
    ((behind c line).container = some .paragraph ↔
      Line.ofText line = .prose ∨ line = Fence.closing.text ∧ c.inLiteral = false) ∧
    ∀ kind, (behind c line).container = some (.list kind) ↔ ∃ text, Line.ofText line = .item kind text := by
  cases hlit : c.inLiteral with
  | true =>
    obtain rfl := eq_closing_of_behind hlit h
    have hfence : Line.ofText Fence.closing.text = .fence .closing := ofText_fence_iff.mpr rfl
    have hnone : (behind c Fence.closing.text).container = none := by
      rw [behind, if_pos hlit]
      exact (hc.inLiteral hlit).1
    simp [hnone, hfence]
  | false =>
    have hcomment : Line.ofText line ≠ .comment := fun e => by simp [ofText_comment_iff.mp e] at hline
    rw [← ofText_fence_iff, behind, if_neg (by simp [hlit])]
    cases hof : Line.ofText line with
    | comment => exact absurd hof hcomment
    | fence side => cases side <;> simp [outside]
    | _ => simp [outside]

/-! ### All lines -/

/-- What is open behind some lines is what the lines say. The fences decide on a literal block, and the last
    heading outside literal blocks on the sections. Outside a literal block the last line that is no comment
    decides on the rest: a table is open behind a row, with the columns of the first row of its run; a
    paragraph behind prose and behind a closing fence that ends no literal block; a list behind an item. -/
theorem context_eq_history (base : Option Text) (lines : List Text) :
    let c := (pushAll base lines .settled).context
    let ls := lines.map Text.trimEnd
    (c.inLiteral = true ↔ InLiteral ls) ∧ c.depth = lastLevel ls ∧
    (c.inLiteral = true → c.container = none ∧ c.columns = 0) ∧
    (c.inLiteral = false →
      ((∀ l ∈ ls, isComment l = true) → c.container = none ∧ c.columns = 0) ∧
      ∀ before x after, ls = before ++ x :: after → isComment x = false → (∀ l ∈ after, isComment l = true) →
        (0 < c.columns ↔ Row.isRow x = true) ∧
        (Row.isRow x = true → ∃ first, (rowsAtEnd ls).head? = some first ∧ c.columns = Row.columns first) ∧
        (c.container = some .paragraph ↔ Line.ofText x = .prose ∨ x = Fence.closing.text ∧ ¬InLiteral before) ∧
        ∀ kind, c.container = some (.list kind) ↔ ∃ text, Line.ofText x = .item kind text) := by
  intro c ls
  have hc : c = ls.foldl behind .settled := context_pushAll base lines (Single.outside 0 none)
  have hsingle (ls : List Text) : Single (ls.foldl behind .settled) := single_foldl ls (Single.outside 0 none)
  have hliteral (ls : List Text) : (ls.foldl behind .settled).inLiteral = true ↔ InLiteral ls := by
    rw [inLiteral_foldl]
    exact foldl_literalBehind ls
  rw [hc]
  refine ⟨hliteral ls, depth_foldl ls, (hsingle ls).inLiteral, fun hout => ⟨fun hall => ?_, ?_⟩⟩
  · rw [foldl_comments _ hall]
    exact ⟨rfl, rfl⟩
  · intro before x after hls hx hafter
    have hcolumns := columns_foldl hout
    -- Comments change nothing, so the context is the one right behind `x`.
    have hbehind : ls.foldl behind .settled = behind (before.foldl behind .settled) x := by
      rw [hls, List.foldl_append, List.foldl_cons, foldl_comments _ hafter]
    rw [hbehind] at hout hcolumns ⊢
    obtain ⟨hparagraph, hlist⟩ := container_behind (hsingle before) hx hout
    have hrow := columns_pos_iff (hsingle before) hx hout
    refine ⟨hrow, fun h => ?_, ?_, hlist⟩
    · have hpos := hrow.mpr h
      rw [hcolumns] at hpos
      cases hrows : rowsAtEnd ls with
      | nil => simp [hrows] at hpos
      | cons first rows => exact ⟨first, rfl, by rw [hcolumns, hrows]; rfl⟩
    · rw [hparagraph, ← hliteral before, Bool.not_eq_true]

end Body
end WikiArticle
