import WikiArticle.Proofs.Body.Outline
import WikiArticle.Proofs.Body.Place

/-! Every body is a tree. From the end of the lines backwards, what is written from a context on is the rest
    of the block that is open there, then blocks and sections of the innermost open section, and then what
    ends the open sections. A step writes the beginning of what its context is continued with. -/

namespace WikiArticle
namespace Body

/-! ### What can follow a context -/

/-- What ends the sections that are open down to a depth, with the sections that follow each on its level. -/
inductive Closing : Nat → List Fragment → List Content → Prop
  | zero : Closing 0 [] []
  | succ {k : Nat} (next : Outline) {fs : List Fragment} {cs : List Content} :
      next.Good (k + 1) → next.StartsTitled → Closing k fs cs →
      Closing (k + 1) (next.ending (k + 1) :: next.fragments (k + 1) ++ fs) (next.contents (k + 1) ++ cs)

/-- What follows outside every block, where sections are open down to a depth. -/
inductive Following : Nat → List Fragment → List Content → Prop
  | mk {d : Nat} (blocks : List Block) (inside : Outline) {fs : List Fragment} {cs : List Content} :
      (∀ b ∈ blocks, b.Good) → inside.Good (d + 1) → Closing d fs cs →
      Following d (blocks.flatMap Block.fragments ++ inside.fragments (d + 1) ++ fs)
        (blocks.flatMap Block.contents ++ inside.contents (d + 1) ++ cs)

/-- What follows a context: the rest of the open block, and what follows outside it. -/
inductive Continues : Context → List Fragment → List Content → Prop
  | outside {d : Nat} {fs : List Fragment} {cs : List Content} :
      Following d fs cs → Continues ⟨d, none, false, 0⟩ fs cs
  | run {d : Nat} {kind : Container} {fs : List Fragment} {cs : List Content} (lines : List Text) :
      Following d fs cs → Continues ⟨d, some kind, false, 0⟩
        (lines.map (lineOf kind) ++ .containerEnd kind :: fs) (lines.map (contentOf kind) ++ cs)
  | table {d n : Nat} {fs : List Fragment} {cs : List Content} (rows : List (List Text)) :
      (∀ cells ∈ rows, cells.length = n + 1) → Following d fs cs →
      Continues ⟨d, none, false, n + 1⟩ (rows.map .row ++ .tableEnd :: fs) (rows.map .row ++ cs)
  | literal {d : Nat} {fs : List Fragment} {cs : List Content} (lines : List Text) :
      Following d fs cs → Continues ⟨d, none, true, 0⟩
        (lines.map .screenLine ++ .screenEnd :: fs) (lines.map .screenLine ++ cs)

/-! ### Blocks -/

theorem Following.block {d : Nat} {b : Block} {fs : List Fragment} {cs : List Content} (hb : b.Good)
    (h : Following d fs cs) : Following d (b.fragments ++ fs) (b.contents ++ cs) := by
  obtain ⟨blocks, inside, hblocks, hinside, hclosing⟩ := h
  simpa using Following.mk (b :: blocks) inside (List.forall_mem_cons.mpr ⟨hb, hblocks⟩) hinside hclosing

theorem continues_leave {d : Nat} {fs : List Fragment} {cs : List Content} (o : Option Container)
    (h : Following d fs cs) : Continues (outside d o) (((outside d o).setContainer none).written ++ fs) cs := by
  cases o with
  | none => exact Continues.outside h
  | some kind => exact Continues.run [] h

theorem continues_writeAlone {d : Nat} {fs : List Fragment} {cs : List Content} (o : Option Container) (fileref : Text)
    (h : Continues ((outside d o).writeAlone (.graphic fileref)).context fs cs) :
    Continues (outside d o) (((outside d o).writeAlone (.graphic fileref)).written ++ fs) (.graphic fileref :: cs) := by
  simp only [Context.writeAlone, Step.context_andThen, Step.written_andThen, context_setContainer, List.append_assoc] at h ⊢
  cases h with
  | outside h => exact continues_leave o (h.block (b := .graphic fileref) trivial)

theorem continues_writeIn {d : Nat} {fs : List Fragment} {cs : List Content} (o : Option Container) (kind : Container)
    (line : Text) (h : Continues ((outside d o).writeIn kind (lineOf kind line)).context fs cs) :
    Continues (outside d o) (((outside d o).writeIn kind (lineOf kind line)).written ++ fs)
      (contentOf kind line :: cs) := by
  by_cases ho : o = some kind
  · subst ho
    simp only [Context.writeIn, Context.setContainer, outside, Step.andThen, Step.stay, if_true] at h ⊢
    cases h with
    | run lines h => exact Continues.run (line :: lines) h
  · have hne : ¬(outside d o).container = some kind := ho
    simp only [Context.writeIn, Context.setContainer, hne, if_false, Step.andThen] at h ⊢
    cases h with
    | run lines h =>
      have := continues_leave o (h.block (b := .run kind line lines) trivial)
      cases o <;> simpa [Context.setContainer, outside, Step.stay, Block.fragments, Block.contents] using this

/-! ### Tables and literal blocks -/

theorem continues_addRow {d n : Nat} {fs : List Fragment} {cs : List Content} (line : Text)
    (h : Continues ⟨d, none, false, n + 1⟩ fs cs) : Continues ⟨d, none, false, n + 1⟩
      (.row (Row.cells (n + 1) line) :: fs) (.row (Row.cells (n + 1) line) :: cs) := by
  cases h with
  | table rows hrows h =>
    exact Continues.table (Row.cells (n + 1) line :: rows)
      (List.forall_mem_cons.mpr ⟨Row.length_cells (n + 1) line, hrows⟩) h

theorem continues_openTable {d : Nat} {fs : List Fragment} {cs : List Content} (o : Option Container) (line : Text)
    (h : Continues ((outside d o).openTable line).context fs cs) :
    Continues (outside d o) (((outside d o).openTable line).written ++ fs)
      (.row (Row.cells (Row.columns line) line) :: cs) := by
  obtain ⟨n, hn⟩ := exists_columns line
  simp only [Context.openTable, Context.addRow, Step.context_andThen, Step.written_andThen, context_setContainer, hn,
    List.append_assoc] at h ⊢
  cases h with
  | table rows hrows h =>
    have hb : (Block.table (n + 1) (Row.cells (n + 1) line) rows).Good :=
      ⟨Nat.le_add_left 1 n, List.forall_mem_cons.mpr ⟨Row.length_cells (n + 1) line, hrows⟩⟩
    simpa [Block.fragments, Block.contents] using continues_leave (d := d) o (h.block hb)

theorem continues_closeTable {d n : Nat} {fs : List Fragment} {cs : List Content} (h : Following d fs cs) :
    Continues ⟨d, none, false, n + 1⟩ (.tableEnd :: fs) cs :=
  Continues.table [] (by simp) h

theorem continues_openLiteral {d : Nat} {fs : List Fragment} {cs : List Content} (o : Option Container)
    (h : Continues ((outside d o).openLiteral).context fs cs) :
    Continues (outside d o) (((outside d o).openLiteral).written ++ fs) cs := by
  simp only [Context.openLiteral, Step.context_andThen, Step.written_andThen, context_setContainer, List.append_assoc] at h ⊢
  cases h with
  | literal lines h =>
    simpa [Block.fragments, Block.contents] using continues_leave (d := d) o (h.block (b := .screen lines) trivial)

theorem continues_literalLine {d : Nat} {fs : List Fragment} {cs : List Content} (line : Text)
    (h : Continues (Context.literalLine line ⟨d, none, true, 0⟩).context fs cs) :
    Continues ⟨d, none, true, 0⟩ ((Context.literalLine line ⟨d, none, true, 0⟩).written ++ fs)
      ((if line = Fence.closing.text then [] else [.screenLine line]) ++ cs) := by
  by_cases hline : line = Fence.closing.text
  · simp only [Context.literalLine, Fence.closes, hline, decide_true, if_true, Context.closeLiteral] at h ⊢
    cases h with
    | outside h => exact Continues.literal [] h
  · simp only [Context.literalLine, Fence.closes, hline, decide_false, if_false, Bool.false_eq_true] at h ⊢
    cases h with
    | literal lines h => exact Continues.literal (line :: lines) h

/-! ### Sections -/

theorem Closing.deeper {k : Nat} {fs : List Fragment} {cs : List Content} (h : Closing k fs cs) (n : Nat) :
    Closing (k + n) ((List.range' (k + 1) n).reverse.map .sectionEnd ++ fs) cs := by
  induction n with
  | zero => exact h
  | succ n ih =>
    have := Closing.succ .nil trivial trivial ih
    rw [List.range'_concat, List.reverse_append]
    simpa [Outline.ending, Outline.fragments, Outline.contents, Nat.add_assoc, Nat.add_comm 1] using this

/-- What follows where the sections of level `j + 1` begin, the first of them being `first`. -/
inductive Opening (first : Outline) : Nat → List Fragment → List Content → Prop
  | mk {j : Nat} {fs : List Fragment} {cs : List Content} : first.Good (j + 1) → first ≠ .nil → Closing j fs cs →
      Opening first j (first.fragments (j + 1) ++ fs) (first.contents (j + 1) ++ cs)

theorem Following.titled {j : Nat} {fs : List Fragment} {cs : List Content} (title : Text) (hj : j + 1 ≤ 3)
    (h : Following (j + 1) fs cs) : ∃ first : Outline, first.StartsTitled ∧
      Opening first j (.sectionStart (j + 1) :: .title title :: fs) (.title (j + 1) title :: cs) := by
  obtain ⟨blocks, inside, hblocks, hinside, hclosing⟩ := h
  cases hclosing with
  | succ next hnext htitled hclosing =>
    refine ⟨.titled title blocks inside next, trivial, ?_⟩
    have hgood : (Outline.titled title blocks inside next).Good (j + 1) := ⟨hj, hblocks, hinside, hnext, htitled⟩
    simpa [Outline.fragments, Outline.contents] using Opening.mk hgood nofun hclosing

theorem Opening.skip {first : Outline} {i : Nat} {fs : List Fragment} {cs : List Content} (hi : i + 1 ≤ 3)
    (h : Opening first (i + 1) fs cs) : ∃ first, Opening first i (.sectionStart (i + 1) :: fs) cs := by
  obtain ⟨hfirst, hne, hclosing⟩ := h
  cases hclosing with
  | succ next hnext htitled hclosing =>
    refine ⟨.skipped first next, ?_⟩
    have hgood : (Outline.skipped first next).Good (i + 1) := ⟨hi, hne, hfirst, hnext, htitled⟩
    simpa [Outline.fragments, Outline.contents] using Opening.mk hgood nofun hclosing

theorem Opening.skipTo {n : Nat} {first : Outline} {d : Nat} {fs : List Fragment} {cs : List Content}
    (hd : d + n ≤ 3) (h : Opening first (d + n) fs cs) :
    ∃ first, Opening first d ((List.range' (d + 1) n).map .sectionStart ++ fs) cs := by
  induction n generalizing first fs with
  | zero => exact ⟨first, h⟩
  | succ n ih =>
    obtain ⟨second, h⟩ := Opening.skip (by omega) h
    obtain ⟨last, h⟩ := ih (by omega) h
    refine ⟨last, ?_⟩
    simpa [List.range'_concat, Nat.add_assoc, Nat.add_comm 1] using h

theorem Opening.following {first : Outline} {d : Nat} {fs : List Fragment} {cs : List Content}
    (h : Opening first d fs cs) : Following d fs cs := by
  obtain ⟨hfirst, -, hclosing⟩ := h
  exact Following.mk [] first nofun hfirst hclosing

/-- Ending the sections deeper than a level and turning to the next section of the level. -/
theorem Opening.turn {first : Outline} {j : Nat} {fs : List Fragment} {cs : List Content} (htitled : first.StartsTitled)
    (h : Opening first j fs cs) (n : Nat) :
    Following (j + 1 + n) ((List.range' (j + 2) n).reverse.map .sectionEnd ++ .sectionTurn (j + 1) :: fs) cs := by
  obtain ⟨hfirst, hne, hclosing⟩ := h
  have hturn : first.ending (j + 1) = .sectionTurn (j + 1) := by
    cases first with
    | nil => exact absurd rfl hne
    | titled => rfl
    | skipped => rfl
  have := (Closing.succ first hfirst htitled hclosing).deeper n
  rw [hturn] at this
  exact Following.mk [] .nil nofun trivial this

theorem continues_openSection {d k : Nat} {fs : List Fragment} {cs : List Content} (o : Option Container) (title : Text)
    (hk : 1 ≤ k) (hk' : k ≤ 3) (h : Continues ((outside d o).openSection k title).context fs cs) :
    Continues (outside d o) (((outside d o).openSection k title).written ++ fs) (.title k title :: cs) := by
  obtain ⟨j, rfl⟩ : ∃ j, k = j + 1 := ⟨k - 1, by omega⟩
  rw [openSection_outside o title hk] at h ⊢
  cases h with
  | outside h =>
    obtain ⟨first, htitled, hopening⟩ := Following.titled title hk' h
    simp only [List.append_assoc]
    refine continues_leave o ?_
    -- Either the open sections end down to a next section of the level, or levels are opened on the way down.
    split
    · rename_i hkd
      have := hopening.turn htitled (d - (j + 1))
      rw [Nat.add_sub_cancel' hkd] at this
      simpa using this
    · rename_i hkd
      have hj : j = d + (j - d) := by omega
      have hrange : j + 1 - d = j - d + 1 := by omega
      have hlast : d + 1 + (j - d) = j + 1 := by omega
      rw [hj] at hopening
      obtain ⟨last, hopening⟩ := Opening.skipTo (by omega) hopening
      rw [← hj] at hopening
      rw [hrange, List.range'_concat]
      simpa [hlast] using hopening.following

end Body
end WikiArticle
