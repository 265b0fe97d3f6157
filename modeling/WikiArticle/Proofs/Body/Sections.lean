import WikiArticle.Proofs.Body.Names
import WikiArticle.Proofs.Body.Reading

/-! What can be read of the sections of a body: which sections each one lies in, and what lies in it outside the
    sections inside it. The body itself is part zero, and the sections are numbered in the order in which
    they begin. -/

namespace WikiArticle
namespace Body
open Markup Inline

/-- The body, or a section of it. -/
structure Part where
  number : Nat
  /-- The numbers of the parts that it lies in, the innermost first. -/
  around : List Nat
  /-- The name of its element, which the body itself has not. -/
  name : Text
  /-- What lies in it outside the sections inside it. -/
  contents : List Content
  deriving DecidableEq, Repr

/-- How deep a part lies: zero for the body, one for the sections right inside it. -/
def Part.level (p : Part) : Nat := p.around.length

/-- Whether a line contributes the title of a section. -/
def Content.isTitle : Content → Bool
  | title _ _ => true
  | _ => false

/-- Whether a part begins with a title. -/
def Part.titled (p : Part) : Bool := p.contents.head?.any Content.isTitle

/-! ### Reading -/

/-- What a forest holds outside its sections, where so many sections are around it. -/
def contentsOutside (depth : Nat) : Forest → List Content
  | .nil => []
  | .char _ next => contentsOutside depth next
  | .element tag inside next =>
    (if "sect".toList.isPrefixOf tag then [] else contentsOf depth tag inside) ++ contentsOutside depth next

/-- The sections of a forest that lies in the parts `around`, numbered from `n` on. -/
def sectionsFrom (around : List Nat) (n : Nat) : Forest → List Part
  | .nil => []
  | .char _ next => sectionsFrom around n next
  | .element tag inside next =>
    let first :=
      if "sect".toList.isPrefixOf tag then
        ⟨n, around, elementName tag, contentsOutside around.length inside⟩ :: sectionsFrom (n :: around) (n + 1) inside
      else sectionsFrom around n inside
    first ++ sectionsFrom around (n + first.length) next

/-- The body that a text is, and its sections. -/
def parts? (t : Text) : Option (Part × List Part) :=
  (Forest.ofText? t).map fun f => (⟨0, [], [], contentsOutside 0 f⟩, sectionsFrom [0] 1 f)

theorem contentsOutside_append (depth : Nat) (f g : Forest) :
    contentsOutside depth (f.append g) = contentsOutside depth f ++ contentsOutside depth g := by
  induction f with
  | nil => rfl
  | char c next ih => rw [Forest.append, contentsOutside, contentsOutside, ih]
  | element tag inside next _ ih => rw [Forest.append, contentsOutside, contentsOutside, ih, List.append_assoc]

theorem sectionsFrom_append (around : List Nat) (n : Nat) (f g : Forest) : sectionsFrom around n (f.append g) =
    sectionsFrom around n f ++ sectionsFrom around (n + (sectionsFrom around n f).length) g := by
  induction f generalizing n with
  | nil => rfl
  | char c next ih => rw [Forest.append, sectionsFrom, sectionsFrom, ih]
  | element tag inside next _ ih =>
    rw [Forest.append, sectionsFrom, sectionsFrom, ih]
    simp only [List.length_append, List.append_assoc, Nat.add_assoc]

/-! ### Tokens without sections -/

/-- No section begins among the tokens. -/
def Sectionless (ts : List Token) : Prop := ∀ tag, Token.start tag ∈ ts → "sect".toList.isPrefixOf tag = false

/-- The name of a section goes on behind `sect`. -/
theorem isPrefixOf_elementName {tag : Text} (h : "sect".toList.isPrefixOf tag = true) :
    "sect".toList.isPrefixOf (elementName tag) = true := by
  obtain ⟨rest, rfl⟩ := List.isPrefixOf_iff_prefix.mp h
  rfl

theorem sectionless_fragment {f : Fragment} (h : ∀ k, f ≠ .sectionStart k) : Sectionless f.tokens := by
  have hother : ∀ name ∈ f.names, "sect".toList.isPrefixOf name = false := by
    cases f with
    | sectionStart k => exact absurd rfl (h k)
    | containerStart kind =>
      intro name hname
      obtain rfl := List.mem_singleton.mp hname
      cases kind with
      | paragraph => rfl
      | list kind => cases kind <;> rfl
    | _ => simp only [Fragment.names]; decide
  intro tag htag
  by_contra hsect
  have hname := hother _ (f.named_tokens tag htag)
  rw [isPrefixOf_elementName (by simpa using hsect)] at hname
  cases hname

theorem sectionless_block (b : Block) : Sectionless (b.fragments.flatMap Fragment.tokens) := by
  intro tag htag
  obtain ⟨f, hf, htag⟩ := List.mem_flatMap.mp htag
  refine sectionless_fragment ?_ tag htag
  rintro k rfl
  cases b with
  | run kind first more => cases kind <;> simp [Block.fragments, lineOf] at hf
  | _ => simp [Block.fragments] at hf

theorem sectionless_blocks (bs : List Block) : Sectionless ((bs.flatMap Block.fragments).flatMap Fragment.tokens) := by
  induction bs with
  | nil => nofun
  | cons b bs ih =>
    rw [List.flatMap_cons, List.flatMap_append]
    intro tag htag
    exact (List.mem_append.mp htag).elim (sectionless_block b tag) (ih tag)

theorem read_sectionless {f : Forest} (h : Sectionless f.tokens) (depth : Nat) (around : List Nat) (n : Nat) :
    contentsOutside depth f = readFrom depth f ∧ sectionsFrom around n f = [] := by
  induction f generalizing n with
  | nil => exact ⟨rfl, rfl⟩
  | char c next ih => exact ih (fun tag htag => h tag (List.mem_cons_of_mem _ htag)) n
  | element tag inside next hinside hnext =>
    have htag := h tag List.mem_cons_self
    have hin : Sectionless inside.tokens := fun t ht =>
      h t (List.mem_cons_of_mem _ (List.mem_append_left _ ht))
    have hbehind : Sectionless next.tokens := fun t ht =>
      h t (List.mem_cons_of_mem _ (List.mem_append_right _ (List.mem_cons_of_mem _ ht)))
    obtain ⟨hcontents, hsections⟩ := hnext hbehind n
    rw [contentsOutside, readFrom, sectionsFrom, htag, hcontents]
    simp [(hinside hin n).2, hsections]

/-! ### Tokens that are read -/

/-- The tokens are those of a forest that holds the contents and the sections, in the part of the number
    `m` that lies in the parts `outer`. -/
def Divides (m : Nat) (outer : List Nat) (n : Nat) (ts : List Token) (cs : List Content) (ss : List Part) : Prop :=
  ∃ f : Forest, ts = f.tokens ∧ contentsOutside outer.length f = cs ∧ sectionsFrom (m :: outer) n f = ss

variable {m n : Nat} {outer : List Nat} {ts us : List Token} {cs ds : List Content} {ss rs : List Part}

theorem Divides.append (ht : Divides m outer n ts cs ss) (hu : Divides m outer (n + ss.length) us ds rs) :
    Divides m outer n (ts ++ us) (cs ++ ds) (ss ++ rs) := by
  obtain ⟨f, rfl, rfl, rfl⟩ := ht
  obtain ⟨g, rfl, rfl, rfl⟩ := hu
  exact ⟨f.append g, (f.tokens_append g).symm, contentsOutside_append _ f g, sectionsFrom_append _ n f g⟩

theorem Divides.char (c : Char) (h : Divides m outer n ts cs ss) : Divides m outer n (.char c :: ts) cs ss := by
  obtain ⟨f, rfl, rfl, rfl⟩ := h
  exact ⟨.char c f, rfl, rfl, rfl⟩

theorem Holds.divides (h : Holds outer.length ts cs) (hsect : Sectionless ts) (m n : Nat) :
    Divides m outer n ts cs [] := by
  obtain ⟨f, rfl, rfl⟩ := h
  obtain ⟨hcontents, hsections⟩ := read_sectionless hsect outer.length (m :: outer) n
  exact ⟨f, rfl, hcontents, hsections⟩

theorem Divides.section (k : Nat) (h : Divides n (m :: outer) (n + 1) ts cs ss)
    (hnext : Divides m outer (n + 1 + ss.length) us ds rs) :
    Divides m outer n (.start (sectionName k) :: (ts ++ .stop (sectionName k) :: us)) ds
      (⟨n, m :: outer, sectionName k, cs⟩ :: (ss ++ rs)) := by
  obtain ⟨f, rfl, rfl, rfl⟩ := h
  obtain ⟨g, rfl, rfl, rfl⟩ := hnext
  have hname : elementName (sectionName k) = sectionName k :=
    elementName_of_notMem (Fragment.notMem_sectionName (by decide) (by decide) k)
  have hsect : "sect".toList.isPrefixOf (sectionName k) = true := rfl
  refine ⟨.element (sectionName k) f g, by rw [Forest.tokens, hname], ?_, ?_⟩
  · rw [contentsOutside, if_pos hsect, List.nil_append]
  · rw [sectionsFrom, if_pos hsect, hname]
    simp [Nat.add_assoc, Nat.add_comm]

/-! ### Sections of outlines -/

/-- The sections of an outline that lies in the parts `around`, numbered from `n` on. -/
def Outline.sections (around : List Nat) (n : Nat) : Outline → List Part
  | nil => []
  | titled title blocks inside next =>
    let deeper := inside.sections (n :: around) (n + 1)
    ⟨n, around, sectionName around.length,
        (.title around.length title :: blocks.flatMap Block.contents).flatMap Content.readings⟩
      :: (deeper ++ next.sections around (n + 1 + deeper.length))
  | skipped inside next =>
    let deeper := inside.sections (n :: around) (n + 1)
    ⟨n, around, sectionName around.length, []⟩ :: (deeper ++ next.sections around (n + 1 + deeper.length))

theorem divides_outline (o : Outline) (m : Nat) (outer : List Nat) (n : Nat) :
    Divides m outer n ((o.fragments (outer.length + 1)).flatMap Fragment.tokens) [] (o.sections (m :: outer) n) := by
  induction o generalizing m outer n with
  | nil => exact ⟨.nil, rfl, rfl, rfl⟩
  | titled title blocks inside next hinside hnext =>
    have htitle : Divides n (m :: outer) (n + 1) (Fragment.title title).tokens _ [] :=
      (holds_title (m :: outer).length title).divides (sectionless_fragment nofun) n (n + 1)
    have hblocks : Divides n (m :: outer) (n + 1) _ _ [] :=
      (holds_blocks blocks).divides (sectionless_blocks blocks) n (n + 1)
    have hheld := (htitle.append (hblocks.append (hinside n (m :: outer) (n + 1)))).char ' '
    obtain ⟨c, hc⟩ := tokens_ending (outer.length + 1) next
    have := hheld.section (outer.length + 1) ((hnext m outer _).char c)
    rw [Outline.fragments, Outline.sections]
    simpa [hc, tokens_sectionStart, Content.readings, Content.written] using this
  | skipped inside next hinside hnext =>
    have hheld := (hinside n (m :: outer) (n + 1)).char ' '
    obtain ⟨c, hc⟩ := tokens_ending (outer.length + 1) next
    have := hheld.section (outer.length + 1) ((hnext m outer _).char c)
    rw [Outline.fragments, Outline.sections]
    simpa [hc, tokens_sectionStart] using this

/-- The parts that are read of a body are the ones of its tree. -/
theorem parts_of_tree {base : Option Text} {lines : List Text} {t : Tree} (h : fragments base lines = t.fragments) :
    parts? (ofLines base lines) =
      some (⟨0, [], [], (t.blocks.flatMap Block.contents).flatMap Content.readings⟩, t.sections.sections [0] 1) := by
  have hblocks : Divides 0 [] 1 _ _ [] := (holds_blocks t.blocks).divides (sectionless_blocks t.blocks) 0 1
  obtain ⟨f, hf, hcontents, hsections⟩ := hblocks.append (divides_outline t.sections 0 [] 1)
  have htokens : Markup.tokens (ofLines base lines) = f.tokens := by
    rw [ofLines, h, (Fragment.cut_textOf t.fragments).2, ← hf, Tree.fragments, List.flatMap_append]
    rfl
  rw [List.append_nil] at hcontents
  rw [List.nil_append] at hsections
  rw [parts?, Forest.ofText?, htokens, Forest.ofTokens?_tokens, Option.map_some]
  simp only [List.length_nil] at hcontents
  rw [hcontents, hsections]

end Body
end WikiArticle
