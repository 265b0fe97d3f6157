import WikiArticle.Proofs.Body.Content

/-! Where the lines of a body lead. At most one of a container, a table and a literal block is open between
    two lines, and what is open of a table and a literal block is what the lines alone say. -/

namespace WikiArticle
namespace Body

/-! ### Contexts -/

/-- A context in which nothing but sections and perhaps a container is open. -/
def outside (d : Nat) (o : Option Container) : Context := ⟨d, o, false, 0⟩

theorem context_setContainer (d : Nat) (o k : Option Container) :
    ((outside d o).setContainer k).context = outside d k := by
  unfold Context.setContainer
  split
  · rename_i h
    simpa [outside, Step.stay] using h
  · rfl

theorem openSection_outside {d k : Nat} (o : Option Container) (title : Text) (hk : 1 ≤ k) :
    (outside d o).openSection k title = ⟨outside k none, ((outside d o).setContainer none).written
      ++ (if k ≤ d then (List.range' (k + 1) (d - k)).reverse.map .sectionEnd ++ [.sectionTurn k, .sectionStart k]
        else (List.range' (d + 1) (k - d)).map .sectionStart) ++ [.title title]⟩ := by
  have hk0 : k ≠ 0 := by omega
  simp only [Context.openSection, hk0, if_false, Step.andThen, context_setContainer]
  by_cases hkd : k ≤ d
  · have hone : k - (k - 1) = 1 := by omega
    have hsucc : k - 1 + 1 = k := by omega
    simp [Context.closeDeeper, Context.turnSection, Context.openDown, Context.levelsBetween, outside, hone, hsucc, hkd]
  · have hmin : min d k = d := by omega
    have hmax : max d k = k := by omega
    have hne : d ≠ k := by omega
    have hzero : d - k = 0 := by omega
    simp [Context.closeDeeper, Context.turnSection, Context.openDown, Context.levelsBetween, Step.stay, outside, hmin,
      hmax, hne, hzero, hkd]

/-- At most one of a container, a table and a literal block is open. -/
inductive Single : Context → Prop
  | outside (d : Nat) (o : Option Container) : Single (outside d o)
  | table (d n : Nat) : Single ⟨d, none, false, n + 1⟩
  | literal (d : Nat) : Single ⟨d, none, true, 0⟩

theorem push_outside (base : Option Text) (line : Text) (d : Nat) (o : Option Container) :
    (outside d o).push base line = (outside d o).plainLine base (Text.trimEnd line) := rfl

theorem push_table (base : Option Text) (line : Text) (d n : Nat) : Context.push base line ⟨d, none, false, n + 1⟩ =
    Context.tableLine base (Text.trimEnd line) ⟨d, none, false, n + 1⟩ := rfl

theorem push_literal (base : Option Text) (line : Text) (d : Nat) : Context.push base line ⟨d, none, true, 0⟩ =
    Context.literalLine (Text.trimEnd line) ⟨d, none, true, 0⟩ := rfl

/-- What the place before a line says is what is open there. -/
def placeOf (c : Context) : Place := ⟨c.inLiteral, c.columns⟩

/-! ### Lines -/

theorem context_writeIn (d : Nat) (o : Option Container) (kind : Container) (f : Fragment) :
    ((outside d o).writeIn kind f).context = outside d (some kind) := context_setContainer d o (some kind)

theorem exists_columns (line : Text) : ∃ n, Row.columns line = n + 1 :=
  Nat.exists_eq_add_of_le' (Row.one_le_columns line)

theorem literalBehind_of_ne {line : Text} (h : Line.ofText line ≠ .fence .opening) :
    Place.literalBehind false line = false := by
  have : line ≠ Fence.opening.text := fun hline => h (ofText_fence_iff.mpr hline)
  simpa [Place.literalBehind] using this

theorem place_plainLine (base : Option Text) (line : Text) (d : Nat) (o : Option Container) :
    Single ((outside d o).plainLine base line).context ∧
      placeOf ((outside d o).plainLine base line).context = (placeOf (outside d o)).behind line := by
  have hplace : placeOf (outside d o) = Place.start := rfl
  have hother : Line.ofText line ≠ .fence .opening → Line.ofText line ≠ .row →
      Place.start.behind line = ⟨false, 0⟩ := fun hfence hrow => by
    simp only [Place.behind, Place.columnsBehind, Place.start, literalBehind_of_ne hfence]
    cases hline : Line.ofText line <;> first | rfl | exact absurd hline hrow
  rw [hplace]
  unfold Context.plainLine
  cases hline : Line.ofText line with
  | blank =>
    simp only [context_setContainer, hother (by simp [hline]) (by simp [hline])]
    exact ⟨Single.outside d none, rfl⟩
  | comment =>
    simp only [Step.stay, hother (by simp [hline]) (by simp [hline])]
    exact ⟨Single.outside d o, rfl⟩
  | fence side =>
    cases side with
    | opening =>
      obtain rfl := ofText_fence_iff.mp hline
      simp only [Context.openLiteral, Step.context_andThen, context_setContainer]
      exact ⟨Single.literal d, rfl⟩
    | closing =>
      simp only [context_writeIn, hother (by simp [hline]) (by simp [hline])]
      exact ⟨Single.outside d _, rfl⟩
  | heading level title =>
    simp only [openSection_outside o title (level_of_heading hline).1, hother (by simp [hline]) (by simp [hline])]
    exact ⟨Single.outside level none, rfl⟩
  | row =>
    have hlit : Place.literalBehind false line = false := literalBehind_of_ne (by simp [hline])
    obtain ⟨n, hn⟩ := exists_columns line
    simp only [Context.openTable, Context.addRow, Step.context_andThen, context_setContainer, Place.behind,
      Place.columnsBehind, Place.columnsOfRow, Place.start, hline, hlit, hn]
    exact ⟨Single.table d n, rfl⟩
  | picture url =>
    simp only [Context.writeAlone, Step.context_andThen, context_setContainer, hother (by simp [hline]) (by simp [hline])]
    exact ⟨Single.outside d none, rfl⟩
  | item kind text =>
    simp only [context_writeIn, hother (by simp [hline]) (by simp [hline])]
    exact ⟨Single.outside d _, rfl⟩
  | prose =>
    simp only [context_writeIn, hother (by simp [hline]) (by simp [hline])]
    exact ⟨Single.outside d _, rfl⟩

theorem place_tableLine (base : Option Text) (line : Text) (d n : Nat) :
    Single (Context.tableLine base line ⟨d, none, false, n + 1⟩).context ∧
      placeOf (Context.tableLine base line ⟨d, none, false, n + 1⟩).context =
        (placeOf ⟨d, none, false, n + 1⟩).behind line := by
  have hplain : Line.ofText line ≠ .row → Line.ofText line ≠ .comment →
      Single ((outside d none).plainLine base line).context ∧
        placeOf ((outside d none).plainLine base line).context = (placeOf ⟨d, none, false, n + 1⟩).behind line :=
    fun hrow hcomment => by
      obtain ⟨hsingle, hplace⟩ := place_plainLine base line d none
      refine ⟨hsingle, hplace.trans ?_⟩
      unfold Place.behind Place.columnsBehind
      cases hline : Line.ofText line <;> first | rfl | exact absurd hline hrow | exact absurd hline hcomment
  unfold Context.tableLine
  cases hline : Line.ofText line with
  | row =>
    have hlit : Place.literalBehind false line = false := literalBehind_of_ne (by simp [hline])
    simp only [Context.addRow, Place.behind, Place.columnsBehind, Place.columnsOfRow, placeOf, hline, hlit]
    exact ⟨Single.table d n, rfl⟩
  | comment =>
    have hlit : Place.literalBehind false line = false := literalBehind_of_ne (by simp [hline])
    simp only [Step.stay, Place.behind, Place.columnsBehind, placeOf, hline, hlit]
    exact ⟨Single.table d n, rfl⟩
  | _ => exact hplain (by simp [hline]) (by simp [hline])

theorem place_push (base : Option Text) (line : Text) {c : Context} (hc : Single c) :
    Single (Context.push base line c).context ∧
      placeOf (Context.push base line c).context = (placeOf c).behind (Text.trimEnd line) := by
  cases hc with
  | outside d o => exact place_plainLine base (Text.trimEnd line) d o
  | table d n => exact place_tableLine base (Text.trimEnd line) d n
  | literal d =>
    rw [push_literal]
    by_cases hline : Text.trimEnd line = Fence.closing.text
    · simp only [Context.literalLine, Fence.closes, hline, decide_true, if_true, Context.closeLiteral]
      exact ⟨Single.outside d none, rfl⟩
    · simp only [Context.literalLine, Fence.closes, hline, decide_false, Bool.false_eq_true, if_false]
      refine ⟨Single.literal d, ?_⟩
      simp [placeOf, Place.behind, Place.literalBehind, Place.columnsBehind, hline]

end Body
end WikiArticle
