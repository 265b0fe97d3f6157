import WikiArticle.Proofs.Body.Depth

/-! Lines and direct moves in any order, with no regard to what is open. No table is ever open in a literal block, and
    only lines begin and end the two. -/

namespace WikiArticle
namespace Body

/-! ### Literal blocks and tables -/

/-- Whether a literal block is open, and the columns of the table that is. -/
def mode (c : Context) : Bool × Nat := (c.inLiteral, c.columns)

/-- What a line can change about literal blocks and tables. -/
inductive ModeTurn (line : Text) : Bool × Nat → Bool × Nat → Prop
  | keeps (m : Bool × Nat) : ModeTurn line m m
  | beginsLiteral (n : Nat) : ModeTurn line (false, n) (true, 0)
  | endsLiteral (n : Nat) : ModeTurn line (true, n) (false, n)
  | beginsTable : Row.isRow line = true → ModeTurn line (false, 0) (false, Row.columns line)
  | endsTable (n : Nat) : ModeTurn line (false, n) (false, 0)

theorem mode_setContainer (kind : Option Container) (c : Context) : mode (c.setContainer kind).context = mode c := by
  unfold Context.setContainer
  split <;> rfl

theorem mode_turnSection (level : Nat) (c : Context) : mode (c.turnSection level).context = mode c := by
  unfold Context.turnSection
  split <;> rfl

theorem mode_openSection (level : Nat) (title : Text) (c : Context) :
    mode (c.openSection level title).context = mode c := by
  have hcleared : mode ((c.setContainer none).andThen (Context.closeDeeper level)).context = mode c :=
    mode_setContainer none c
  unfold Context.openSection
  by_cases hzero : level = 0
  · rw [if_pos hzero]
    exact hcleared
  · rw [if_neg hzero]
    exact (mode_turnSection level _).trans hcleared

/-- Sections and containers are begun and ended with no effect on what else is open. -/
theorem mode_direct (base : Option Text) {a : Action} (ha : ∀ line, a ≠ .push line) (c : Context) :
    mode (a.step base c).context = mode c := by
  cases a with
  | push line => exact absurd rfl (ha line)
  | openSection level title => exact mode_openSection level title c
  | setContainer kind => exact mode_setContainer kind c
  | closeAll => exact mode_setContainer none c

/-- Outside literal blocks and tables a line keeps to there, or begins one. -/
theorem mode_plainLine (base : Option Text) (line : Text) {c : Context} (hc : mode c = (false, 0)) :
    mode (c.plainLine base line).context = (false, 0) ∨ mode (c.plainLine base line).context = (true, 0) ∨
      Row.isRow line = true ∧ mode (c.plainLine base line).context = (false, Row.columns line) := by
  have hset (kind : Option Container) : mode (c.setContainer kind).context = (false, 0) :=
    (mode_setContainer kind c).trans hc
  have hliteral : mode c.openLiteral.context = (true, 0) := Prod.ext rfl (congrArg Prod.snd (hset none) :)
  have htable : mode (c.openTable line).context = (false, Row.columns line) :=
    Prod.ext (congrArg Prod.fst (hset none) :) rfl
  unfold Context.plainLine
  cases hline : Line.ofText line with
  | blank => exact Or.inl (hset none)
  | comment => exact Or.inl hc
  | heading level title => exact Or.inl ((mode_openSection level title c).trans hc)
  | fence side =>
    cases side with
    | opening => exact Or.inr (Or.inl hliteral)
    | closing => exact Or.inl (hset (some .paragraph))
  | row => exact Or.inr (Or.inr ⟨ofText_row_iff.mp hline, htable⟩)
  | picture url => exact Or.inl (hset none)
  | item kind text => exact Or.inl (hset (some (.list kind)))
  | prose => exact Or.inl (hset (some .paragraph))

theorem modeTurn_push (base : Option Text) (line : Text) (c : Context) :
    ModeTurn (Text.trimEnd line) (mode c) (mode (c.push base line).context) := by
  unfold Context.push
  generalize Text.trimEnd line = line
  by_cases hliteral : c.inLiteral = true
  · have hc : mode c = (true, c.columns) := Prod.ext hliteral rfl
    rw [if_pos hliteral, Context.literalLine, hc]
    split
    · exact .endsLiteral c.columns
    · rw [hc]
      exact .keeps _
  · have hliteral : c.inLiteral = false := Bool.eq_false_iff.mpr hliteral
    have hc : mode c = (false, c.columns) := Prod.ext hliteral rfl
    rw [hliteral, if_neg Bool.false_ne_true]
    by_cases htable : c.inTable = true
    · rw [if_pos htable, Context.tableLine]
      split
      · exact .keeps _
      · exact .keeps _
      · -- The row begins no table here, since a row goes on with the open one.
        have hclosed : mode c.closeTable.context = (false, 0) := Prod.ext hliteral rfl
        rw [Step.context_andThen, hc]
        rename_i hrow _
        rcases mode_plainLine base line hclosed with h | h | ⟨h, -⟩
        · rw [h]
          exact .endsTable _
        · rw [h]
          exact .beginsLiteral _
        · exact absurd (ofText_row_iff.mpr h) hrow
    · have hcolumns : c.columns = 0 := by simpa [Context.inTable] using htable
      rw [if_neg htable]
      rw [hcolumns] at hc
      rw [hc]
      rcases mode_plainLine base line hc with h | h | ⟨hrow, h⟩
      · rw [h]
        exact .keeps _
      · rw [h]
        exact .beginsLiteral _
      · rw [h]
        exact .beginsTable hrow

/-- No table is open in a literal block. -/
def Exclusive (m : Bool × Nat) : Prop := m.1 = true → m.2 = 0

theorem ModeTurn.exclusive {line : Text} {m n : Bool × Nat} (h : ModeTurn line m n) (hm : Exclusive m) :
    Exclusive n := by
  cases h with
  | keeps => exact hm
  | beginsLiteral => exact fun _ => rfl
  | _ => exact fun h => absurd h Bool.false_ne_true

theorem ModeTurn.columns {line : Text} {m n : Bool × Nat} (h : ModeTurn line m n) :
    n.2 = m.2 ∨ n.2 = 0 ∨ Row.isRow line = true ∧ m.2 = 0 ∧ n.2 = Row.columns line := by
  cases h with
  | keeps => exact Or.inl rfl
  | endsLiteral => exact Or.inl rfl
  | beginsLiteral => exact Or.inr (Or.inl rfl)
  | endsTable => exact Or.inr (Or.inl rfl)
  | beginsTable hrow => exact Or.inr (Or.inr ⟨hrow, rfl, rfl⟩)

theorem exclusive_step (base : Option Text) (a : Action) {c : Context} (hc : Exclusive (mode c)) :
    Exclusive (mode (a.step base c).context) := by
  cases a with
  | push line => exact (modeTurn_push base line c).exclusive hc
  | _ => rwa [mode_direct base (by simp)]

theorem exclusive_run (base : Option Text) (as : List Action) {c : Context} (hc : Exclusive (mode c)) :
    Exclusive (mode (run base as c).context) := by
  induction as generalizing c with
  | nil => exact hc
  | cons a as ih => exact ih (exclusive_step base a hc)

theorem warnings_of_exclusive {c : Context} (hc : Exclusive (mode c)) : (warnings c).length ≤ 1 := by
  unfold warnings
  cases hliteral : c.inLiteral with
  | false =>
    cases c.inTable <;> decide
  | true =>
    have hcolumns : c.columns = 0 := hc hliteral
    simp [Context.inTable, hcolumns]

/-! ### Many actions -/

/-- Actions in any order keep the depth to a byte, and never open a table in a literal block. Counted one up and one
    down at a time, in a byte, the depth goes as the sections are written, at the end too; the columns of a table are
    those of its first row, and only lines begin or end tables and literal blocks. -/
theorem run_in_any_order (base : Option Text) {as : List Action} (has : ∀ a ∈ as, InByte a) :
    let s := run base as .settled
    (∃ d : UInt8, d.toNat = s.context.depth ∧
      count? base as .settled 0 = some ⟨d, s.written.filter Fragment.isSection⟩ ∧
      endDeeper? 0 d = some ⟨0, (finish s.context).written.filter Fragment.isSection⟩) ∧
    ¬(s.context.inLiteral = true ∧ s.context.inTable = true) ∧
    (∀ a : Action, (∀ line, a ≠ .push line) →
      (a.step base s.context).context.inLiteral = s.context.inLiteral ∧
      (a.step base s.context).context.columns = s.context.columns) ∧
    (∀ line : Text,
      let columns := (Context.push base line s.context).context.columns
      columns = s.context.columns ∨ columns = 0 ∨
        Row.isRow (Text.trimEnd line) = true ∧ s.context.columns = 0 ∧ columns = Row.columns (Text.trimEnd line)) ∧
    (warnings s.context).length ≤ 1 := by
  intro s
  have hmode : Exclusive (mode s.context) := exclusive_run base as (c := .settled) fun _ => rfl
  refine ⟨?_, fun ⟨hliteral, htable⟩ => ?_, fun a ha => ?_, fun line => (modeTurn_push base line _).columns,
    warnings_of_exclusive hmode⟩
  · obtain ⟨d, hd, hcount⟩ := counts_run base has (c := .settled) (d := 0) rfl
    obtain ⟨e, he, hfinish⟩ := counts_finish hd
    have hzero : e = 0 := UInt8.toNat_inj.mp (he.trans (Nat.min_zero _))
    rw [hzero] at hfinish
    exact ⟨d, hd, hcount, hfinish⟩
  · have hcolumns : s.context.columns = 0 := hmode hliteral
    simp [Context.inTable, hcolumns] at htable
  · exact Prod.ext_iff.mp (mode_direct base ha s.context)

/-- A run up to the deepest section that a byte counts, which begins in a table and goes down again in a literal
    block. -/
def mixedRun : List Action :=
  [.push "||a||b||".toList, .openSection 255 "Deep".toList, .setContainer (some .paragraph),
    .push Fence.opening.text, .openSection 254 "Less".toList]

theorem run_mixedRun : (∀ a ∈ mixedRun, InByte a) ∧
    ∃ written, count? none mixedRun .settled 0 = some ⟨254, written⟩ := by
  have has : ∀ a ∈ mixedRun, InByte a := by simp [mixedRun, InByte]
  obtain ⟨⟨d, hd, hcount, -⟩, -⟩ := run_in_any_order none has
  have hdepth : (run none mixedRun .settled).context.depth = 254 := by decide
  obtain rfl : d = 254 := UInt8.toNat_inj.mp (hd.trans hdepth)
  exact ⟨has, _, hcount⟩

end Body
end WikiArticle
