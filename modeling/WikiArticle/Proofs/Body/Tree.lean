import WikiArticle.Proofs.Body.Continues

/-! Every body is a good tree that holds what its lines contribute, whatever is open when the lines end. -/

namespace WikiArticle
namespace Body

/-! ### Lines -/

theorem continues_plainLine (base : Option Text) (line : Text) {d : Nat} {fs : List Fragment} {cs : List Content}
    (o : Option Container) (h : Continues ((outside d o).plainLine base line).context fs cs) :
    Continues (outside d o) (((outside d o).plainLine base line).written ++ fs)
      (((placeOf (outside d o)).content? base line).toList ++ cs) := by
  have hplace : (placeOf (outside d o)).inLiteral = false := rfl
  simp only [Place.content?, hplace, Bool.false_eq_true, if_false]
  unfold Context.plainLine at h ⊢
  cases hline : Line.ofText line with
  | blank =>
    simp only [hline, context_setContainer] at h ⊢
    cases h with
    | outside h => exact continues_leave o h
  | comment =>
    simp only [hline] at h ⊢
    exact h
  | fence side =>
    cases side with
    | opening =>
      simp only [hline] at h ⊢
      exact continues_openLiteral o h
    | closing =>
      simp only [hline] at h ⊢
      exact continues_writeIn o .paragraph line h
  | heading level title =>
    obtain ⟨h1, h3⟩ := level_of_heading hline
    simp only [hline] at h ⊢
    exact continues_openSection o title h1 h3 h
  | row =>
    simp only [hline] at h ⊢
    exact continues_openTable o line h
  | picture url =>
    simp only [hline] at h ⊢
    exact continues_writeAlone o _ h
  | item kind text =>
    simp only [hline] at h ⊢
    exact continues_writeIn o (.list kind) text h
  | prose =>
    simp only [hline] at h ⊢
    exact continues_writeIn o .paragraph line h

theorem continues_tableLine (base : Option Text) (line : Text) {d n : Nat} {fs : List Fragment} {cs : List Content}
    (h : Continues (Context.tableLine base line ⟨d, none, false, n + 1⟩).context fs cs) :
    Continues ⟨d, none, false, n + 1⟩ ((Context.tableLine base line ⟨d, none, false, n + 1⟩).written ++ fs)
      (((placeOf ⟨d, none, false, n + 1⟩).content? base line).toList ++ cs) := by
  have hplain : Line.ofText line ≠ .row → Continues ((outside d none).plainLine base line).context fs cs →
      Continues ⟨d, none, false, n + 1⟩ (.tableEnd :: ((outside d none).plainLine base line).written ++ fs)
        (((placeOf ⟨d, none, false, n + 1⟩).content? base line).toList ++ cs) := fun hrow h => by
    have hcontent : (placeOf ⟨d, none, false, n + 1⟩).content? base line =
        (placeOf (outside d none)).content? base line := by
      unfold Place.content?
      cases hline : Line.ofText line with
      | row => exact absurd hline hrow
      | fence side => cases side <;> rfl
      | _ => rfl
    have := continues_plainLine base line none h
    rw [hcontent]
    cases this with
    | outside this => exact continues_closeTable this
  unfold Context.tableLine at h ⊢
  cases hline : Line.ofText line with
  | row =>
    simp only [hline] at h ⊢
    have hcontent : (placeOf ⟨d, none, false, n + 1⟩).content? base line = some (.row (Row.cells (n + 1) line)) := by
      simp [Place.content?, placeOf, hline, Place.columnsOfRow]
    rw [hcontent]
    exact continues_addRow line h
  | comment =>
    simp only [hline] at h ⊢
    have hcontent : (placeOf ⟨d, none, false, n + 1⟩).content? base line = none := by
      simp [Place.content?, placeOf, hline]
    rw [hcontent]
    exact h
  | _ =>
    simp only [hline] at h ⊢
    exact hplain (by simp [hline]) h

theorem continues_push (base : Option Text) (line : Text) {c : Context} {fs : List Fragment} {cs : List Content}
    (hc : Single c) (h : Continues (Context.push base line c).context fs cs) :
    Continues c ((Context.push base line c).written ++ fs)
      (((placeOf c).content? base (Text.trimEnd line)).toList ++ cs) := by
  cases hc with
  | outside d o => exact continues_plainLine base (Text.trimEnd line) o h
  | table d n => exact continues_tableLine base (Text.trimEnd line) h
  | literal d =>
    have := continues_literalLine (Text.trimEnd line) h
    have hplace : (placeOf ⟨d, none, true, 0⟩).inLiteral = true := rfl
    simp only [Place.content?, hplace, if_true]
    split
    · rename_i hline
      rw [if_pos hline] at this
      exact this
    · rename_i hline
      rw [if_neg hline] at this
      exact this

/-! ### The end -/

theorem continues_finish {c : Context} (hc : Single c) : Continues c (finish c).written [] := by
  have hclosing (d : Nat) : Following d ((Context.levelsBetween 0 d).reverse.map .sectionEnd) [] := by
    have := Closing.zero.deeper d
    rw [Nat.zero_add, List.append_nil] at this
    exact Following.mk [] .nil nofun trivial this
  have hall (d : Nat) (o : Option Container) : Continues (outside d o) (outside d o).closeAll.written [] := by
    simp only [Context.closeAll, Step.written_andThen, context_setContainer]
    exact continues_leave o (hclosing d)
  cases hc with
  | outside d o => exact hall d o
  | table d n =>
    have := hall d none
    cases this with
    | outside this => exact continues_closeTable this
  | literal d =>
    have := hall d none
    cases this with
    | outside this => exact Continues.literal [] this

theorem continues_lines (base : Option Text) (lines : List Text) {c : Context} (hc : Single c) :
    Continues c ((pushAll base lines c).andThen finish).written (contentsFrom base (placeOf c) lines) := by
  -- What follows a line is known first: the tree grows from the last line backwards.
  induction lines generalizing c with
  | nil => exact continues_finish hc
  | cons line lines ih =>
    obtain ⟨hsingle, hplace⟩ := place_push base line hc
    have hrest := ih hsingle
    rw [hplace] at hrest
    have := continues_push base line hc hrest
    simpa [pushAll, run, Action.step, contentsFrom] using this

/-- Every body is a good tree that holds what its lines contribute. -/
theorem exists_tree (base : Option Text) (lines : List Text) :
    ∃ t : Tree, t.Good ∧ fragments base lines = t.fragments ∧ contents base lines = t.contents := by
  have h : Continues (outside 0 none) (fragments base lines) (contents base lines) :=
    continues_lines base lines (Single.outside 0 none)
  generalize fragments base lines = fs at h
  generalize contents base lines = cs at h
  cases h with
  | outside h =>
    cases h with
    | mk blocks inside hblocks hinside hclosing =>
      cases hclosing
      exact ⟨⟨blocks, inside⟩, ⟨hblocks, hinside⟩, List.append_nil _, List.append_nil _⟩

end Body
end WikiArticle
