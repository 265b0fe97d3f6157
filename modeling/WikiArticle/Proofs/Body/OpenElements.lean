import WikiArticle.Proofs.Body.Stack

/-! Runs of lines and direct moves. The direct moves take no notice of tables and literal blocks, so they are
    permitted only outside both; then a run of any moves in any order leaves open in its text exactly the
    elements that its context says. -/

namespace WikiArticle
open Markup

/-- Lines are always permitted, direct moves outside tables and literal blocks. -/
def Action.Permitted (c : Context) : Action → Prop
  | push _ => True
  | _ => c.inLiteral = false ∧ c.inTable = false

namespace Body

/-- Every action is permitted where it is taken. -/
def PermittedFrom (base : Option Text) : Context → List Action → Prop
  | _, [] => True
  | c, a :: as => a.Permitted c ∧ PermittedFrom base (a.step base c).context as

theorem permittedFrom_push (base : Option Text) (c : Context) (lines : List Text) :
    PermittedFrom base c (lines.map .push) := by
  induction lines generalizing c with
  | nil => trivial
  | cons line lines ih => exact ⟨trivial, ih _⟩

/-! ### One action -/

theorem Single.at_most_one {c : Context} (hc : Single c) :
    c.container.toList.length + c.inTable.toNat + c.inLiteral.toNat ≤ 1 := by
  cases hc with
  | outside d o => cases o <;> simp [Body.outside, Context.inTable]
  | table d n => simp [Context.inTable]
  | literal d => simp [Context.inTable]

theorem single_outside {c : Context} (hc : Single c) (hl : c.inLiteral = false) (ht : c.inTable = false) :
    ∃ d o, c = outside d o := by
  cases hc with
  | outside d o => exact ⟨d, o, rfl⟩
  | table d n => cases ht
  | literal d => cases hl

theorem context_closeAll (d : Nat) (o : Option Container) : (outside d o).closeAll.context = outside 0 none := by
  simp only [Context.closeAll, Step.context_andThen, context_setContainer]
  simp [Context.closeDeeper, outside]

theorem context_openSection (d k : Nat) (o : Option Container) (title : Text) :
    ((outside d o).openSection k title).context = outside k none := by
  cases k with
  | zero => exact context_closeAll d o
  | succ j => rw [openSection_outside o title (Nat.le_add_left 1 j)]

theorem single_step (base : Option Text) {a : Action} {c : Context} (hc : Single c) (ha : a.Permitted c) :
    Single (a.step base c).context ∧ Leads c (a.step base c) := by
  cases a with
  | push line => exact ⟨(place_push base line hc).1, leads_push base line hc⟩
  | openSection k title =>
    obtain ⟨d, o, rfl⟩ := single_outside hc ha.1 ha.2
    refine ⟨?_, leads_openSection d k o title⟩
    rw [Action.step, context_openSection]
    exact Single.outside k none
  | setContainer kind =>
    obtain ⟨d, o, rfl⟩ := single_outside hc ha.1 ha.2
    refine ⟨?_, leads_setContainer d o kind⟩
    rw [Action.step, context_setContainer]
    exact Single.outside d kind
  | closeAll =>
    obtain ⟨d, o, rfl⟩ := single_outside hc ha.1 ha.2
    refine ⟨?_, leads_closeAll d o⟩
    rw [Action.step, context_closeAll]
    exact Single.outside 0 none

/-! ### Runs -/

theorem single_run (base : Option Text) {as : List Action} {c : Context} (hc : Single c)
    (has : PermittedFrom base c as) : Single (run base as c).context ∧ Leads c (run base as c) := by
  induction as generalizing c with
  | nil => exact ⟨hc, leads_stay c⟩
  | cons a as ih =>
    obtain ⟨hsingle, hleads⟩ := single_step base hc has.1
    obtain ⟨hsingle', hleads'⟩ := ih hsingle has.2
    exact ⟨hsingle', hleads.andThen _ hleads'⟩

theorem Leads.textOf {c : Context} {s : Step} (h : Leads c s) :
    openAfter (tokens (Fragment.textOf s.written)) c.elements.reverse = some s.context.elements.reverse := by
  rw [(Fragment.cut_textOf s.written).2]
  exact h

/-! ### The end -/

/-- Only ends of elements are written at the end. -/
theorem start_notMem_finish {c : Context} (hc : Single c) (inside : Text) :
    Token.start inside ∉ (finish c).written.flatMap Fragment.tokens := by
  have hall (d : Nat) (o : Option Container) :
      Token.start inside ∉ (outside d o).closeAll.written.flatMap Fragment.tokens := by
    simp only [Context.closeAll, Step.written_andThen, context_setContainer, Context.closeDeeper, List.mem_flatMap,
      List.mem_append, List.mem_map]
    rintro ⟨f, hf | ⟨k, -, rfl⟩, hmem⟩
    · cases o with
      | none => cases hf
      | some kind =>
        obtain rfl := List.mem_singleton.mp hf
        simp [Fragment.tokens] at hmem
    · simp [Fragment.tokens] at hmem
  have hcons {f : Fragment} (hf : Token.start inside ∉ f.tokens) (d : Nat) :
      Token.start inside ∉ (f :: (outside d none).closeAll.written).flatMap Fragment.tokens := by
    rw [List.flatMap_cons, List.mem_append, not_or]
    exact ⟨hf, hall d none⟩
  cases hc with
  | outside d o => exact hall d o
  | table d n => exact hcons (f := .tableEnd) (by simp [Fragment.tokens]) d
  | literal d => exact hcons (f := .screenEnd) (by simp [Fragment.tokens]) d

theorem context_finish {c : Context} (hc : Single c) : (finish c).context = .settled := by
  cases hc with
  | outside d o => exact context_closeAll d o
  | table d n => exact context_closeAll d none
  | literal d => exact context_closeAll d none

theorem openElements_ofLines (base : Option Text) (lines : List Text) : openElements (ofLines base lines) = some [] := by
  obtain ⟨hsingle, hleads⟩ := single_run base (Single.outside 0 none) (permittedFrom_push base .settled lines)
  have hopen := (hleads.andThen finish (leads_finish hsingle)).textOf
  rw [Step.context_andThen, context_finish hsingle] at hopen
  exact congrArg (Option.map List.reverse) hopen

theorem tags_finish {c : Context} (hc : Single c) :
    (tokens (Fragment.textOf (finish c).written)).filter Token.isTag = c.elements.reverse.map Token.stop := by
  have hleads := leads_finish hc
  rw [Leads, context_finish hc] at hleads
  obtain ⟨names, hnames, htags⟩ := stops_of_openAfter (start_notMem_finish hc) hleads
  have hsettled : Context.settled.elements.reverse = [] := rfl
  rw [hsettled, List.append_nil] at hnames
  rw [(Fragment.cut_textOf _).2, htags, hnames]

/-- Behind every run of permitted actions, the text written so far leaves open the elements of the context,
    of which at most one of a container, a table and a literal block is open. What the next permitted action
    writes ends elements from the innermost outwards, and a section is opened at its own level. What is
    written at the end ends the elements that are open and no other. -/
theorem openElements_run (base : Option Text) {as : List Action} (has : PermittedFrom base .settled as) :
    let s := run base as .settled
    openElements (Fragment.textOf s.written) = some s.context.elements ∧
    s.context.container.toList.length + s.context.inTable.toNat + s.context.inLiteral.toNat ≤ 1 ∧
    (∀ a : Action, a.Permitted s.context →
      EndsInnermost s.context.elements.reverse (tokens (Fragment.textOf (a.step base s.context).written)) ∧
      (∀ level title, a = .openSection level title →
        (a.step base s.context).context.depth = level ∧ (a.step base s.context).context.container = none) ∧
      (a = .closeAll →
        (a.step base s.context).context.depth = 0 ∧ (a.step base s.context).context.container = none)) ∧
    (tokens (Fragment.textOf (finish s.context).written)).filter Token.isTag =
      s.context.elements.reverse.map Token.stop := by
  intro s
  obtain ⟨hsingle, hleads⟩ : Single s.context ∧ Leads .settled s := single_run base (Single.outside 0 none) has
  refine ⟨?_, hsingle.at_most_one, ?_, tags_finish hsingle⟩
  · have hopen : openAfter (tokens (Fragment.textOf s.written)) [] = some s.context.elements.reverse := hleads.textOf
    rw [openElements, hopen, Option.map_some, List.reverse_reverse]
  · intro a ha
    refine ⟨endsInnermost_of_openAfter (single_step base hsingle ha).2.textOf, ?_, ?_⟩
    · rintro level title rfl
      obtain ⟨d, o, hc⟩ := single_outside hsingle ha.1 ha.2
      rw [hc, Action.step, context_openSection]
      exact ⟨rfl, rfl⟩
    · rintro rfl
      obtain ⟨d, o, hc⟩ := single_outside hsingle ha.1 ha.2
      rw [hc, Action.step, context_closeAll]
      exact ⟨rfl, rfl⟩

/-- A run with a skipped level, a paragraph that a fence ends, and a line of the literal block. -/
def sampleRun : List Action :=
  [.openSection 2 "Timers".toList, .push "They tick.".toList, .setContainer (some .paragraph), .push Fence.opening.text,
    .push "= no title =".toList]

theorem openElements_sampleRun : PermittedFrom none .settled sampleRun ∧
    openElements (Fragment.textOf (run none sampleRun .settled).written) =
      some ["sect1".toList, "sect2".toList, "screen".toList] := by
  have has : PermittedFrom none .settled sampleRun := ⟨⟨rfl, rfl⟩, trivial, ⟨rfl, rfl⟩, trivial, trivial, trivial⟩
  refine ⟨has, (openElements_run none has).1.trans ?_⟩
  decide

end Body
end WikiArticle
