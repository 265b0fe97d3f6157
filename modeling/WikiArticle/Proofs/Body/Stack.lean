import WikiArticle.Proofs.Body.Place
import WikiArticle.Proofs.Body.Written

/-! A context says which elements are open in the written text. Each fragment ends and begins elements of its
    own; each move writes fragments that lead from the elements of its context to those of the context it
    leads to; and so does every run of moves that are permitted where they are made. -/

namespace WikiArticle
open Markup

/-! ### Elements of a context -/

/-- The elements of a table, the outermost first. -/
def tableElements : List Text := ["table".toList, "tgroup".toList, "tbody".toList]

/-- The elements that are open in a context, the outermost first. -/
def Context.elements (c : Context) : List Text :=
  (List.range' 1 c.depth).map sectionName ++ c.container.toList.map Container.name
    ++ (if c.inTable then tableElements else []) ++ (if c.inLiteral then ["screen".toList] else [])

namespace Fragment

/-- The elements that a fragment ends, the innermost first. -/
def ends : Fragment → List Text
  | sectionEnd level | sectionTurn level => [sectionName level]
  | containerEnd kind => [kind.name]
  | tableEnd => tableElements.reverse
  | screenEnd => ["screen".toList]
  | _ => []

/-- The elements that a fragment leaves open, the innermost first. -/
def begins : Fragment → List Text
  | sectionStart level => [sectionName level]
  | containerStart kind => [kind.name]
  | tableStart _ => tableElements.reverse
  | screenStart => ["screen".toList]
  | _ => []

theorem openAfter_entries (cells : List Text) (s : List Text) :
    openAfter (cells.flatMap entryTokens) s = some s := by
  induction cells with
  | nil => rfl
  | cons cell cells ih =>
    have hname : elementName "entry".toList = "entry".toList := rfl
    rw [List.flatMap_cons, entryTokens, openAfter_append]
    simp only [List.cons_append, openAfter, openAfter_append, Token.apply, (Inline.nested_markUp cell).openAfter,
      Option.bind_some, hname, if_true, ih]

theorem openAfter_tokens (f : Fragment) (s : List Text) : openAfter f.tokens (f.ends ++ s) = some (f.begins ++ s) := by
  cases f with
  | sectionStart k =>
    simp only [tokens, ends, begins, openAfter, Token.apply, Option.bind_some, List.nil_append, List.cons_append,
      elementName_of_notMem (notMem_sectionName (by decide) (by decide) k)]
  | containerStart kind =>
    simp only [tokens, ends, begins, openAfter, Token.apply, Option.bind_some, List.nil_append, List.cons_append,
      elementName_of_notMem (notMem_containerName kind).1]
  | title source =>
    have hname : elementName "title".toList = "title".toList := rfl
    simp only [tokens, ends, begins, List.nil_append, List.cons_append, openAfter, openAfter_append, Token.apply,
      (Inline.nested_markUp source).openAfter, Option.bind_some, hname, if_true]
  | item source =>
    have hitem : elementName "listitem".toList = "listitem".toList := rfl
    have hpara : elementName "para".toList = "para".toList := rfl
    simp only [tokens, ends, begins, List.nil_append, List.cons_append, openAfter, openAfter_append, Token.apply,
      (Inline.nested_markUp source).openAfter, Option.bind_some, hitem, hpara, if_true]
  | paragraphLine source =>
    simp only [tokens, ends, begins, List.nil_append, openAfter, openAfter_append, Token.apply,
      (Inline.nested_markUp source).openAfter, Option.bind_some]
  | screenLine source =>
    simp only [tokens, ends, begins, List.nil_append, openAfter, openAfter_append, Token.apply, openAfter_chars,
      Option.bind_some]
  | graphic fileref =>
    have hname : elementName (graphicTag fileref) = "graphic".toList := rfl
    simp only [tokens, ends, begins, List.nil_append, openAfter, Token.apply, Option.bind_some, hname, if_true]
  | tableStart columns => rfl
  | row cells =>
    have hname : elementName "row".toList = "row".toList := rfl
    simp only [tokens, ends, begins, List.nil_append, List.cons_append, openAfter, openAfter_append, Token.apply,
      openAfter_entries, Option.bind_some, hname, if_true]
  | sectionEnd k => simp [tokens, ends, begins, openAfter, Token.apply]
  | sectionTurn k => simp [tokens, ends, begins, openAfter, Token.apply]
  | containerEnd kind => simp [tokens, ends, begins, openAfter, Token.apply]
  | tableEnd => rfl
  | screenStart => rfl
  | screenEnd => rfl

end Fragment

namespace Body
open Fragment

/-! ### Steps -/

/-- The sections that are open down to a depth, the innermost first. -/
def openSections (d : Nat) : List Text := ((List.range' 1 d).map sectionName).reverse

theorem openSections_succ (d : Nat) : openSections (d + 1) = sectionName (d + 1) :: openSections d := by
  simp [openSections, List.range'_concat, Nat.add_comm]

theorem elements_outside (d : Nat) (o : Option Container) :
    (outside d o).elements.reverse = o.toList.map Container.name ++ openSections d := by
  cases o <;> simp [Context.elements, outside, Context.inTable, openSections]

theorem elements_table (d n : Nat) :
    (Context.mk d none false (n + 1)).elements.reverse = tableElements.reverse ++ openSections d := by
  simp [Context.elements, Context.inTable, openSections]

theorem elements_literal (d : Nat) :
    (Context.mk d none true 0).elements.reverse = "screen".toList :: openSections d := by
  simp [Context.elements, Context.inTable, openSections]

/-- What the step writes leads from the open elements of `c` to those of where it leads. -/
def Leads (c : Context) (s : Step) : Prop :=
  openAfter (s.written.flatMap Fragment.tokens) c.elements.reverse = some s.context.elements.reverse

theorem leads_stay (c : Context) : Leads c (.stay c) := rfl

theorem Leads.andThen {c : Context} {s : Step} (hs : Leads c s) (next : Context → Step)
    (hnext : Leads s.context (next s.context)) : Leads c (s.andThen next) := by
  have happend : openAfter ((s.written ++ (next s.context).written).flatMap Fragment.tokens) c.elements.reverse =
      some (next s.context).context.elements.reverse := by
    rw [List.flatMap_append, openAfter_append, hs]
    exact hnext
  exact happend

theorem leads_one {c d : Context} {f : Fragment} {s : List Text} (hc : c.elements.reverse = f.ends ++ s)
    (hd : d.elements.reverse = f.begins ++ s) : Leads c ⟨d, [f]⟩ := by
  have := openAfter_tokens f s
  rw [← hc, ← hd] at this
  simpa [Leads] using this

theorem leads_within {c : Context} {f : Fragment} (hends : f.ends = []) (hbegins : f.begins = []) :
    Leads c ⟨c, [f]⟩ :=
  leads_one (s := c.elements.reverse) (by rw [hends, List.nil_append]) (by rw [hbegins, List.nil_append])

theorem leads_setContainer (d : Nat) (o k : Option Container) : Leads (outside d o) ((outside d o).setContainer k) := by
  have hstart (kind : Container) : Leads (outside d none) ⟨outside d (some kind), [.containerStart kind]⟩ :=
    leads_one (elements_outside d none) (elements_outside d (some kind))
  have hend (kind : Container) : Leads (outside d (some kind)) ⟨outside d none, [.containerEnd kind]⟩ :=
    leads_one (elements_outside d (some kind)) (elements_outside d none)
  unfold Context.setContainer
  split
  · exact leads_stay _
  · cases o with
    | none =>
      cases k with
      | none => exact leads_stay _
      | some kind => exact hstart kind
    | some old =>
      cases k with
      | none => exact hend old
      | some kind =>
        exact (hend old).andThen (fun _ => ⟨outside d (some kind), [.containerStart kind]⟩) (hstart kind)

/-! ### Sections -/

theorem openAfter_sectionEnds (k n : Nat) : openAfter
    (((List.range' (k + 1) n).reverse.map Fragment.sectionEnd).flatMap Fragment.tokens) (openSections (k + n)) =
      some (openSections k) := by
  induction n with
  | zero => rfl
  | succ n ih =>
    have := openAfter_tokens (.sectionEnd (k + n + 1)) (openSections (k + n))
    simp only [Fragment.ends, Fragment.begins, List.cons_append, List.nil_append, ← openSections_succ] at this
    rw [List.range'_concat, List.reverse_append, List.map_append, List.flatMap_append, openAfter_append]
    simp only [List.reverse_singleton, List.map_cons, List.map_nil, List.flatMap_cons, List.flatMap_nil,
      List.append_nil, Nat.one_mul, Nat.add_right_comm k 1 n]
    rw [← Nat.add_assoc, this, Option.bind_some, ih]

theorem openAfter_sectionStarts (d n : Nat) : openAfter
    (((List.range' (d + 1) n).map Fragment.sectionStart).flatMap Fragment.tokens) (openSections d) =
      some (openSections (d + n)) := by
  induction n with
  | zero => rfl
  | succ n ih =>
    have := openAfter_tokens (.sectionStart (d + n + 1)) (openSections (d + n))
    simp only [Fragment.ends, Fragment.begins, List.cons_append, List.nil_append, ← openSections_succ] at this
    rw [List.range'_concat, List.map_append, List.flatMap_append, openAfter_append, ih]
    simp only [List.map_cons, List.map_nil, List.flatMap_cons, List.flatMap_nil, List.append_nil, Nat.one_mul,
      Option.bind_some, Nat.add_right_comm d 1 n]
    exact this

theorem leads_closeDeeper (d k : Nat) : Leads (outside d none) (Context.closeDeeper k (outside d none)) := by
  have helements (d : Nat) : (outside d none).elements.reverse = openSections d := elements_outside d none
  by_cases hkd : k ≤ d
  · have hmin : min d k = k := by omega
    have := openAfter_sectionEnds k (d - k)
    rw [Nat.add_sub_cancel' hkd, ← helements, ← helements] at this
    simpa [Leads, Context.closeDeeper, Context.levelsBetween, outside, hmin] using this
  · have hmin : min d k = d := by omega
    have hzero : d - k = 0 := by omega
    simp [Leads, Context.closeDeeper, Context.levelsBetween, outside, hmin, hzero, openAfter]

theorem leads_turnSection {d k : Nat} (hk : 1 ≤ k) :
    Leads (outside d none) (Context.turnSection k (outside d none)) := by
  unfold Context.turnSection
  split
  · rename_i hd
    obtain rfl : d = k := hd
    obtain ⟨j, rfl⟩ : ∃ j, d = j + 1 := ⟨d - 1, by omega⟩
    refine leads_one (s := openSections j) ?_ (elements_outside j none)
    rw [elements_outside, openSections_succ]
    rfl
  · exact leads_stay _

theorem leads_openDown (d k : Nat) : Leads (outside d none) (Context.openDown k (outside d none)) := by
  have helements (d : Nat) : (outside d none).elements.reverse = openSections d := elements_outside d none
  have := openAfter_sectionStarts d (k - d)
  have hmax : d + (k - d) = max d k := by omega
  rw [hmax, ← helements, ← helements] at this
  exact this

theorem leads_openSection (d k : Nat) (o : Option Container) (title : Text) :
    Leads (outside d o) ((outside d o).openSection k title) := by
  have hleave := leads_setContainer d o none
  have hcleared : Leads (outside d o) (((outside d o).setContainer none).andThen (Context.closeDeeper k)) := by
    refine hleave.andThen _ ?_
    rw [context_setContainer]
    exact leads_closeDeeper d k
  unfold Context.openSection
  split
  · exact hcleared
  · rename_i hk
    have hk : 1 ≤ k := by omega
    have hturned := hcleared.andThen (Context.turnSection k) (by
      rw [Step.context_andThen, context_setContainer]
      exact leads_turnSection hk)
    have hopened := hturned.andThen (Context.openDown k) (by
      rw [Step.context_andThen, Step.context_andThen, context_setContainer]
      unfold Context.turnSection
      split
      · exact leads_openDown (k - 1) k
      · exact leads_openDown (min d k) k)
    exact hopened.andThen _ (leads_within rfl rfl)

theorem leads_closeAll (d : Nat) (o : Option Container) : Leads (outside d o) (outside d o).closeAll := by
  refine (leads_setContainer d o none).andThen _ ?_
  rw [context_setContainer]
  exact leads_closeDeeper d 0

/-! ### Lines -/

theorem leads_writeIn (d : Nat) (o : Option Container) (kind : Container) {f : Fragment} (hends : f.ends = [])
    (hbegins : f.begins = []) : Leads (outside d o) ((outside d o).writeIn kind f) :=
  (leads_setContainer d o (some kind)).andThen _ (leads_within hends hbegins)

theorem leads_writeAlone (d : Nat) (o : Option Container) (fileref : Text) :
    Leads (outside d o) ((outside d o).writeAlone (.graphic fileref)) :=
  (leads_setContainer d o none).andThen _ (leads_within rfl rfl)

theorem leads_openTable (d : Nat) (o : Option Container) (line : Text) :
    Leads (outside d o) ((outside d o).openTable line) := by
  obtain ⟨n, hn⟩ := exists_columns line
  have hstart : Leads (outside d none) ⟨⟨d, none, false, n + 1⟩, [.tableStart (n + 1)]⟩ :=
    leads_one (elements_outside d none) (elements_table d n)
  refine (leads_setContainer d o none).andThen _ ?_
  rw [context_setContainer, hn]
  exact hstart.andThen _ (leads_within rfl rfl)

theorem leads_closeTable (d n : Nat) : Leads ⟨d, none, false, n + 1⟩ (Context.closeTable ⟨d, none, false, n + 1⟩) :=
  leads_one (elements_table d n) (elements_outside d none)

theorem leads_openLiteral (d : Nat) (o : Option Container) : Leads (outside d o) (outside d o).openLiteral := by
  refine (leads_setContainer d o none).andThen _ ?_
  rw [context_setContainer]
  exact leads_one (elements_outside d none) (elements_literal d)

theorem leads_closeLiteral (d : Nat) : Leads ⟨d, none, true, 0⟩ (Context.closeLiteral ⟨d, none, true, 0⟩) :=
  leads_one (elements_literal d) (elements_outside d none)

theorem leads_plainLine (base : Option Text) (line : Text) (d : Nat) (o : Option Container) :
    Leads (outside d o) ((outside d o).plainLine base line) := by
  unfold Context.plainLine
  split
  · exact leads_setContainer d o none
  · exact leads_stay _
  · exact leads_openLiteral d o
  · exact leads_openSection d _ o _
  · exact leads_openTable d o line
  · exact leads_writeAlone d o _
  · exact leads_writeIn d o _ rfl rfl
  · exact leads_writeIn d o _ rfl rfl
  · exact leads_writeIn d o _ rfl rfl

theorem leads_push (base : Option Text) (line : Text) {c : Context} (hc : Single c) :
    Leads c (c.push base line) := by
  cases hc with
  | outside d o => exact leads_plainLine base (Text.trimEnd line) d o
  | table d n =>
    rw [push_table]
    unfold Context.tableLine
    split
    · exact leads_within rfl rfl
    · exact leads_stay _
    · exact (leads_closeTable d n).andThen _ (leads_plainLine base (Text.trimEnd line) d none)
  | literal d =>
    rw [push_literal]
    unfold Context.literalLine
    split
    · exact leads_closeLiteral d
    · exact leads_within rfl rfl

theorem leads_finish {c : Context} (hc : Single c) : Leads c (finish c) := by
  cases hc with
  | outside d o => exact leads_closeAll d o
  | table d n => exact (leads_closeTable d n).andThen _ (leads_closeAll d none)
  | literal d => exact (leads_closeLiteral d).andThen _ (leads_closeAll d none)

end Body
end WikiArticle
