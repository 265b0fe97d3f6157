import WikiArticle.Proofs.Body.Content

/-! The number of open sections, counted in a byte: one up for each section that is begun and one down for each
    that is ended. Actions whose levels fit a byte never take the count out of it, whatever is open when they are
    taken, and the sections that are begun and ended on the way are those that the actions write. -/

namespace WikiArticle
open Text

/-- The fragment begins or ends a section. -/
def Fragment.isSection : Fragment → Bool
  | sectionStart _ | sectionEnd _ | sectionTurn _ => true
  | _ => false

namespace Body

/-! ### Counting in a byte -/

/-- The number above, if a byte can hold it. -/
def up? (d : UInt8) : Option UInt8 := if d.toNat + 1 < 256 then some (d + 1) else none

/-- The number below, if there is one. -/
def down? (d : UInt8) : Option UInt8 := if 0 < d.toNat then some (d - 1) else none

theorem up?_eq {d : UInt8} (h : d.toNat < 255) : ∃ e, up? d = some e ∧ e.toNat = d.toNat + 1 := by
  refine ⟨d + 1, if_pos (by omega), ?_⟩
  rw [UInt8.toNat_add]
  exact Nat.mod_eq_of_lt (by simpa using Nat.succ_lt_succ h)

theorem down?_eq {d : UInt8} (h : 0 < d.toNat) : ∃ e, down? d = some e ∧ e.toNat = d.toNat - 1 := by
  refine ⟨d - 1, if_pos h, ?_⟩
  rw [UInt8.toNat_sub_of_le d 1 (UInt8.le_iff_toNat_le.mpr h)]
  rfl

theorem toNat_of_up? {d e : UInt8} (h : up? d = some e) : e.toNat = d.toNat + 1 := by
  obtain ⟨hd, -⟩ := Option.ite_none_right_eq_some.mp h
  obtain ⟨e', he', hn⟩ := up?_eq (d := d) (by omega)
  rw [h] at he'
  cases he'
  exact hn

theorem toNat_of_down? {d e : UInt8} (h : down? d = some e) : e.toNat + 1 = d.toNat := by
  obtain ⟨hd, -⟩ := Option.ite_none_right_eq_some.mp h
  obtain ⟨e', he', hn⟩ := down?_eq (d := d) (by omega)
  rw [h] at he'
  cases he'
  omega

/-- Where a count has got to, and the sections that were begun and ended on the way. -/
structure Tally where
  depth : UInt8
  written : List Fragment

/-- The count that goes on with `next`. -/
def Tally.andThen? (t : Tally) (next : UInt8 → Option Tally) : Option Tally :=
  (next t.depth).map fun u => ⟨u.depth, t.written ++ u.written⟩

/-- Counts down to a level, ending the section of each number that is left. -/
def endDeeper? (level d : UInt8) : Option Tally :=
  if level < d then
    match h : down? d with
    | some e =>
      have : e.toNat + 1 = d.toNat := toNat_of_down? h
      (endDeeper? level e).map fun t => ⟨t.depth, .sectionEnd d.toNat :: t.written⟩
    | none => none
  else some ⟨d, []⟩
termination_by d.toNat

/-- Counts one down from a level, ending the section that the next one of the level follows. -/
def turn? (level d : UInt8) : Option Tally :=
  if d = level then (down? d).map fun e => ⟨e, [.sectionTurn level.toNat]⟩ else some ⟨d, []⟩

/-- Counts up to a level, beginning the section of each number that is reached. -/
def beginDown? (level d : UInt8) : Option Tally :=
  if hlt : d < level then
    match h : up? d with
    | some e =>
      have : e.toNat = d.toNat + 1 := toNat_of_up? h
      have : d.toNat < level.toNat := UInt8.lt_iff_toNat_lt.mp hlt
      (beginDown? level e).map fun t => ⟨t.depth, .sectionStart e.toNat :: t.written⟩
    | none => none
  else some ⟨d, []⟩
termination_by level.toNat - d.toNat

/-- Counts what it takes to begin a section of a level. -/
def enter? (level d : UInt8) : Option Tally :=
  if level = 0 then endDeeper? level d
  else ((endDeeper? level d).bind (·.andThen? (turn? level))).bind (·.andThen? (beginDown? level))

/-- Counts what it takes to go on at a level, if one is asked for. -/
def countTo? : Option Nat → UInt8 → Option Tally
  | some level, d => enter? (.ofNat level) d
  | none, d => some ⟨d, []⟩

/-- The level that the action asks for. -/
def actionLevel? (c : Context) : Action → Option Nat
  | .push line => if c.inLiteral then none else headingLevel? (Text.trimEnd line)
  | .openSection level _ => some level
  | .setContainer _ => none
  | .closeAll => some 0

/-- Counts along a sequence of actions; nothing comes out if a number would leave the byte on the way. -/
def count? (base : Option Text) : List Action → Context → UInt8 → Option Tally
  | [], _, d => some ⟨d, []⟩
  | a :: as, c, d => (countTo? (actionLevel? c a) d).bind (·.andThen? (count? base as (a.step base c).context))

/-! ### Counting as the steps go -/

/-- The count comes to the depth that the step leads to, by way of the sections that the step writes. -/
def Counts (x : Option Tally) (s : Step) : Prop :=
  ∃ d : UInt8, d.toNat = s.context.depth ∧ x = some ⟨d, s.written.filter Fragment.isSection⟩

/-- The step has nothing to do with sections. -/
def Quiet (c : Context) (s : Step) : Prop :=
  s.context.depth = c.depth ∧ s.written.filter Fragment.isSection = []

section
variable {c : Context} {d : UInt8} {x : Option Tally} {s : Step} {f : Context → Step}

theorem Counts.andThen {next : UInt8 → Option Tally} (hs : Counts x s)
    (hf : ∀ d : UInt8, d.toNat = s.context.depth → Counts (next d) (f s.context)) :
    Counts (x.bind (·.andThen? next)) (s.andThen f) := by
  obtain ⟨d, hd, rfl⟩ := hs
  obtain ⟨e, he, hnext⟩ := hf d hd
  refine ⟨e, he, ?_⟩
  simp [Tally.andThen?, hnext]

theorem Counts.quietly (hs : Counts x s) (hf : Quiet s.context (f s.context)) : Counts x (s.andThen f) := by
  obtain ⟨d, hd, rfl⟩ := hs
  refine ⟨d, hd.trans hf.1.symm, ?_⟩
  rw [Step.written_andThen, List.filter_append, hf.2, List.append_nil]

theorem Quiet.counts (hs : Quiet c s) (hd : d.toNat = c.depth) : Counts (some ⟨d, []⟩) s :=
  ⟨d, hd.trans hs.1.symm, by rw [hs.2]⟩

theorem Quiet.before (hs : Quiet c s) (hf : Counts x (f s.context)) : Counts x (s.andThen f) := by
  obtain ⟨d, hd, rfl⟩ := hf
  refine ⟨d, hd, ?_⟩
  rw [Step.written_andThen, List.filter_append, hs.2, List.nil_append]

theorem Quiet.andThen (hs : Quiet c s) (hf : Quiet s.context (f s.context)) : Quiet c (s.andThen f) := by
  refine ⟨hf.1.trans hs.1, ?_⟩
  rw [Step.written_andThen, List.filter_append, hs.2, hf.2, List.append_nil]

end

/-! #### Moves that leave sections alone -/

theorem quiet_stay (c : Context) : Quiet c (.stay c) := ⟨rfl, rfl⟩

theorem quiet_setContainer (kind : Option Container) (c : Context) : Quiet c (c.setContainer kind) := by
  unfold Context.setContainer
  split
  · exact quiet_stay c
  · refine ⟨rfl, ?_⟩
    cases c.container <;> cases kind <;> rfl

theorem quiet_addRow (line : Text) (c : Context) : Quiet c (c.addRow line) := ⟨rfl, rfl⟩

theorem quiet_closeTable (c : Context) : Quiet c c.closeTable := ⟨rfl, rfl⟩

theorem quiet_closeLiteral (c : Context) : Quiet c c.closeLiteral := ⟨rfl, rfl⟩

theorem quiet_literalLine (line : Text) (c : Context) : Quiet c (c.literalLine line) := by
  unfold Context.literalLine
  split
  · exact quiet_closeLiteral c
  · exact ⟨rfl, rfl⟩

theorem quiet_plainLine (base : Option Text) {line : Text} (c : Context) (hline : headingLevel? line = none) :
    Quiet c (c.plainLine base line) := by
  unfold headingLevel? at hline
  unfold Context.plainLine
  cases h : Line.ofText line with
  | blank => exact quiet_setContainer none c
  | comment => exact quiet_stay c
  | heading level title => simp [h] at hline
  | fence side =>
    cases side with
    | opening => exact (quiet_setContainer none c).andThen ⟨rfl, rfl⟩
    | closing => exact (quiet_setContainer _ c).andThen ⟨rfl, rfl⟩
  | row => exact (quiet_setContainer none c).andThen ⟨rfl, rfl⟩
  | picture url => exact (quiet_setContainer none c).andThen ⟨rfl, rfl⟩
  | item kind text => exact (quiet_setContainer _ c).andThen ⟨rfl, rfl⟩
  | prose => exact (quiet_setContainer _ c).andThen ⟨rfl, rfl⟩

/-! #### Moves between sections -/

theorem filter_map_isSection {α : Type} (f : α → Fragment) (hf : ∀ a, (f a).isSection = true) (as : List α) :
    (as.map f).filter Fragment.isSection = as.map f := by
  rw [List.filter_map]
  exact congrArg (List.map f) (List.filter_eq_self.mpr fun a _ => hf a)

theorem levelsBetween_of_le {a b : Nat} (h : b ≤ a) : Context.levelsBetween a b = [] := by
  rw [Context.levelsBetween, Nat.sub_eq_zero_of_le h]
  rfl

theorem levelsBetween_succ_right {a b : Nat} (h : a ≤ b) :
    Context.levelsBetween a (b + 1) = Context.levelsBetween a b ++ [b + 1] := by
  have hlast : a + 1 + (b - a) = b + 1 := by omega
  rw [Context.levelsBetween, Nat.succ_sub h, List.range'_1_concat, hlast]
  rfl

theorem levelsBetween_of_lt {a b : Nat} (h : a < b) :
    Context.levelsBetween a b = (a + 1) :: Context.levelsBetween (a + 1) b := by
  have hcount : b - a = (b - (a + 1)) + 1 := by omega
  rw [Context.levelsBetween, hcount, List.range'_succ]
  rfl

theorem endDeeper?_eq (level d : UInt8) : ∃ e : UInt8, e.toNat = min d.toNat level.toNat ∧
    endDeeper? level d = some ⟨e, (Context.levelsBetween level.toNat d.toNat).reverse.map .sectionEnd⟩ := by
  fun_induction endDeeper? level d with
  | case1 d hlt e he hsucc ih =>
    obtain ⟨f, hf, hdown⟩ := ih
    have hlevel : level.toNat ≤ e.toNat := by
      have := UInt8.lt_iff_toNat_lt.mp hlt
      omega
    refine ⟨f, by omega, ?_⟩
    -- The innermost section is the last of the levels in between, and the first to be ended.
    rw [hdown, ← hsucc, levelsBetween_succ_right hlevel]
    simp
  | case2 d hlt hnone =>
    have hpos : 0 < d.toNat := Nat.zero_lt_of_lt (UInt8.lt_iff_toNat_lt.mp hlt)
    obtain ⟨e, he, -⟩ := down?_eq hpos
    rw [hnone] at he
    cases he
  | case3 d hle =>
    have hle : d.toNat ≤ level.toNat := Nat.le_of_not_lt fun h => hle (UInt8.lt_iff_toNat_lt.mpr h)
    exact ⟨d, (Nat.min_eq_left hle).symm, by rw [levelsBetween_of_le hle]; rfl⟩

theorem beginDown?_eq (level d : UInt8) : ∃ e : UInt8, e.toNat = max d.toNat level.toNat ∧
    beginDown? level d = some ⟨e, (Context.levelsBetween d.toNat level.toNat).map .sectionStart⟩ := by
  fun_induction beginDown? level d with
  | case1 d hlt e he hsucc hlevel ih =>
    obtain ⟨f, hf, hup⟩ := ih
    refine ⟨f, by omega, ?_⟩
    rw [hup, levelsBetween_of_lt hlevel, hsucc]
    rfl
  | case2 d hlt hnone =>
    have hlevel := UInt8.lt_iff_toNat_lt.mp hlt
    have := level.toNat_lt
    obtain ⟨e, he, -⟩ := up?_eq (d := d) (by omega)
    rw [hnone] at he
    cases he
  | case3 d hle =>
    have hle : level.toNat ≤ d.toNat := Nat.le_of_not_lt fun h => hle (UInt8.lt_iff_toNat_lt.mpr h)
    exact ⟨d, (Nat.max_eq_left hle).symm, by rw [levelsBetween_of_le hle]; rfl⟩

section
variable {d : UInt8} {c : Context}

theorem counts_closeDeeper (level : UInt8) (hd : d.toNat = c.depth) :
    Counts (endDeeper? level d) (c.closeDeeper level.toNat) := by
  obtain ⟨e, he, hdown⟩ := endDeeper?_eq level d
  refine ⟨e, by rw [he, hd]; rfl, ?_⟩
  rw [hdown, hd, Context.closeDeeper, filter_map_isSection _ fun _ => rfl]

theorem counts_turnSection {level : UInt8} (hlevel : 0 < level.toNat) (hd : d.toNat = c.depth) :
    Counts (turn? level d) (c.turnSection level.toNat) := by
  unfold turn? Context.turnSection
  rw [← hd]
  by_cases h : d = level
  · subst h
    obtain ⟨e, he, hn⟩ := down?_eq hlevel
    refine ⟨e, ?_, ?_⟩
    · simp [hn]
    · simp only [if_true, he, Option.map_some]
      rfl
  · have hne : d.toNat ≠ level.toNat := fun hn => h (UInt8.toNat_inj.mp hn)
    rw [if_neg h, if_neg hne]
    exact (quiet_stay c).counts hd

theorem counts_openDown (level : UInt8) (hd : d.toNat = c.depth) :
    Counts (beginDown? level d) (c.openDown level.toNat) := by
  obtain ⟨e, he, hup⟩ := beginDown?_eq level d
  refine ⟨e, by rw [he, hd]; rfl, ?_⟩
  rw [hup, hd, Context.openDown, filter_map_isSection _ fun _ => rfl]

theorem counts_openSection (level : UInt8) (title : Text) (hd : d.toNat = c.depth) :
    Counts (enter? level d) (c.openSection level.toNat title) := by
  have hquiet := quiet_setContainer none c
  have hcleared : Counts (endDeeper? level d) ((c.setContainer none).andThen (Context.closeDeeper level.toNat)) :=
    hquiet.before (counts_closeDeeper level (hd.trans hquiet.1.symm))
  unfold enter? Context.openSection
  by_cases hzero : level = 0
  · subst hzero
    exact hcleared
  · have hne : level.toNat ≠ 0 := fun h => hzero (UInt8.toNat_inj.mp h)
    rw [if_neg hzero, if_neg hne]
    have hturned := hcleared.andThen fun _ he => counts_turnSection (Nat.pos_of_ne_zero hne) he
    exact (hturned.andThen fun _ he => counts_openDown level he).quietly ⟨rfl, rfl⟩

theorem counts_closeAll (hd : d.toNat = c.depth) : Counts (endDeeper? 0 d) c.closeAll :=
  (quiet_setContainer none c).before (counts_closeDeeper 0 (hd.trans (quiet_setContainer none c).1.symm))

end

/-! ### Many actions -/

/-- A byte holds the level that the action names. -/
def InByte : Action → Prop
  | .openSection level _ => level < 256
  | _ => True

section
variable {d : UInt8} {c : Context}

theorem counts_enter {level : Nat} (title : Text) (hlevel : level < 256) (hd : d.toNat = c.depth) :
    Counts (countTo? (some level) d) (c.openSection level title) := by
  have h := counts_openSection (.ofNat level) title hd
  rwa [UInt8.toNat_ofNat_of_lt' hlevel] at h

theorem counts_plainLine (base : Option Text) (line : Text) (hd : d.toNat = c.depth) :
    Counts (countTo? (headingLevel? line) d) (c.plainLine base line) := by
  cases hline : headingLevel? line with
  | none => exact (quiet_plainLine base c hline).counts hd
  | some level =>
    obtain ⟨title, hheading⟩ : ∃ title, Line.ofText line = .heading level title := by
      unfold headingLevel? at hline
      split at hline
      · rename_i h
        cases hline
        exact ⟨_, h⟩
      · cases hline
    have := (level_of_heading hheading).2
    rw [Context.plainLine, hheading]
    exact counts_enter title (by omega) hd

theorem counts_tableLine (base : Option Text) (line : Text) (hd : d.toNat = c.depth) :
    Counts (countTo? (headingLevel? line) d) (c.tableLine base line) := by
  unfold Context.tableLine
  split
  · rename_i h
    rw [headingLevel?, h]
    exact (quiet_addRow line c).counts hd
  · rename_i h
    rw [headingLevel?, h]
    exact (quiet_stay c).counts hd
  · exact (quiet_closeTable c).before (counts_plainLine base line hd)

theorem counts_step (base : Option Text) {a : Action} (ha : InByte a) (hd : d.toNat = c.depth) :
    Counts (countTo? (actionLevel? c a) d) (a.step base c) := by
  cases a with
  | push line =>
    simp only [Action.step, Context.push, actionLevel?]
    split
    · exact (quiet_literalLine _ c).counts hd
    · split
      · exact counts_tableLine base _ hd
      · exact counts_plainLine base _ hd
  | openSection level title => exact counts_enter title ha hd
  | setContainer kind => exact (quiet_setContainer kind c).counts hd
  | closeAll => exact counts_closeAll hd

theorem counts_run (base : Option Text) {as : List Action} (has : ∀ a ∈ as, InByte a) (hd : d.toNat = c.depth) :
    Counts (count? base as c d) (run base as c) := by
  induction as generalizing c d with
  | nil => exact (quiet_stay c).counts hd
  | cons a as ih =>
    obtain ⟨ha, has⟩ := List.forall_mem_cons.mp has
    exact (counts_step base ha hd).andThen fun _ he => ih has he

theorem counts_finish (hd : d.toNat = c.depth) : Counts (endDeeper? 0 d) (finish c) := by
  have hliteral : Quiet c (if c.inLiteral then c.closeLiteral else .stay c) := by
    split
    · exact quiet_closeLiteral c
    · exact quiet_stay c
  have htable (c : Context) : Quiet c (if c.inTable then c.closeTable else .stay c) := by
    split
    · exact quiet_closeTable c
    · exact quiet_stay c
  have hquiet : Quiet c ((if c.inLiteral then c.closeLiteral else .stay c).andThen
      fun c => if c.inTable then c.closeTable else .stay c) := hliteral.andThen (htable _)
  exact hquiet.before (counts_closeAll (hd.trans hquiet.1.symm))

end

end Body
end WikiArticle
