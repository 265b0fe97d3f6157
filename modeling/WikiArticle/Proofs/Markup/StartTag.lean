import Mathlib.Data.List.TakeWhile
import WikiArticle.Proofs.Inline.Entity

/-! Start tags of XML: a name, and attributes with quoted values. A value runs up to the next quote of the kind
    that it began with, so a quote inside it cuts it short. -/

namespace WikiArticle
namespace Markup

/-! ### Characters -/

/-- Whether the code point of a character lies in one of the ranges, whose ends belong to them. -/
def inRanges (ranges : List (Nat × Nat)) (c : Char) : Bool :=
  ranges.any fun r => r.1 ≤ c.toNat && c.toNat ≤ r.2

/-- The characters that a document can hold. -/
def isDocumentChar : Char → Bool :=
  inRanges [(0x9, 0xA), (0xD, 0xD), (0x20, 0xD7FF), (0xE000, 0xFFFD), (0x10000, 0x10FFFF)]

/-- Whether a character is white space between the parts of a tag. -/
def isTagSpace (c : Char) : Bool := c == ' ' || c == '\t' || c == '\n' || c == '\r'

/-- The characters that a name can begin with. -/
def isNameStart : Char → Bool :=
  inRanges [(0x3A, 0x3A), (0x41, 0x5A), (0x5F, 0x5F), (0x61, 0x7A), (0xC0, 0xD6), (0xD8, 0xF6), (0xF8, 0x2FF),
    (0x370, 0x37D), (0x37F, 0x1FFF), (0x200C, 0x200D), (0x2070, 0x218F), (0x2C00, 0x2FEF), (0x3001, 0xD7FF),
    (0xF900, 0xFDCF), (0xFDF0, 0xFFFD), (0x10000, 0xEFFFF)]

/-- The characters of a name. -/
def isNameChar (c : Char) : Bool :=
  isNameStart c || inRanges [(0x2D, 0x2E), (0x30, 0x39), (0xB7, 0xB7), (0x300, 0x36F), (0x203F, 0x2040)] c

/-- Whether a text can be the name of an element or attribute. -/
def isName (t : Text) : Bool := t.head?.any isNameStart && t.all isNameChar

/-! ### Reading -/

/-- An attribute with its value, as it is written between the quotes. -/
structure Attribute where
  name : Text
  quote : Char
  value : Text
  deriving DecidableEq, Repr

/-- The name of an element and its attributes, in their order. -/
structure StartTag where
  name : Text
  attributes : List Attribute
  deriving DecidableEq, Repr

/-- A place in a start tag, with what has been read of the part that it is in, the last character first. -/
inductive TagPlace where
  | inName (read : Text)
  /-- Behind white space, where an attribute can begin. -/
  | gap
  | inAttribute (read : Text)
  /-- Behind the name of an attribute, before the equals sign. -/
  | behindAttribute (name : Text)
  | beforeValue (name : Text)
  | inValue (name : Text) (quote : Char) (read : Text)
  | behindValue
  deriving DecidableEq, Repr

namespace StartTag

/-- The start tag with one more attribute, behind the others. -/
def add (a : Attribute) (tag : StartTag) : StartTag := { tag with attributes := tag.attributes ++ [a] }

/-- The start tag that a text goes on with at a place, where `tag` has been read of it. -/
def readFrom : TagPlace → StartTag → Text → Option StartTag
  | .inName r, tag, [] => some { tag with name := r.reverse }
  | .inName r, tag, c :: t =>
    if isTagSpace c then readFrom .gap { tag with name := r.reverse } t else readFrom (.inName (c :: r)) tag t
  | .gap, tag, [] => some tag
  | .gap, tag, c :: t => if isTagSpace c then readFrom .gap tag t else readFrom (.inAttribute [c]) tag t
  | .inAttribute r, tag, c :: t =>
    if c = '=' then readFrom (.beforeValue r.reverse) tag t
    else if isTagSpace c then readFrom (.behindAttribute r.reverse) tag t
    else readFrom (.inAttribute (c :: r)) tag t
  | .behindAttribute n, tag, c :: t =>
    if isTagSpace c then readFrom (.behindAttribute n) tag t
    else if c = '=' then readFrom (.beforeValue n) tag t else none
  | .beforeValue n, tag, c :: t =>
    if isTagSpace c then readFrom (.beforeValue n) tag t
    else if c = '"' || c = '\'' then readFrom (.inValue n c []) tag t else none
  | .inValue n q r, tag, c :: t =>
    if c = q then readFrom .behindValue (tag.add ⟨n, q, r.reverse⟩) t else readFrom (.inValue n q (c :: r)) tag t
  | .behindValue, tag, [] => some tag
  | .behindValue, tag, c :: t => if isTagSpace c then readFrom .gap tag t else none
  | _, _, [] => none

/-- The start tag with `inside` between its brackets. -/
def ofText? (inside : Text) : Option StartTag := readFrom (.inName []) ⟨[], []⟩ inside

end StartTag

/-- The entities that every XML document knows. -/
def xmlEntities : List Text := Inline.entities ++ ["&quot;".toList, "&apos;".toList]

/-- The value holds no quote of its kind and no `<`, and every `&` in it begins an entity. -/
structure Attribute.WellFormed (a : Attribute) : Prop where
  name : isName a.name = true
  quote : a.quote ∉ a.value
  lt : '<' ∉ a.value
  amp : Text.Begins '&' (· ∈ xmlEntities) a.value
  chars : ∀ c ∈ a.value, isDocumentChar c = true

namespace StartTag

/-- The names are names, no two attributes have the same, and every attribute is well-formed. -/
structure WellFormed (tag : StartTag) : Prop where
  name : isName tag.name = true
  attributes : ∀ a ∈ tag.attributes, a.WellFormed
  distinct : (tag.attributes.map Attribute.name).Nodup

/-- The value of the first attribute of a name, if there is one. -/
def value? (name : Text) (tag : StartTag) : Option Text :=
  (tag.attributes.find? fun a => a.name == name).map Attribute.value

/-! ### Tags without attributes -/

theorem readFrom_inName {n : Text} (hn : ∀ c ∈ n, isTagSpace c = false) (r : Text) (tag : StartTag) :
    readFrom (.inName r) tag n = some { tag with name := r.reverse ++ n } := by
  induction n generalizing r with
  | nil => rw [readFrom, List.append_nil]
  | cons c n ih =>
    have hc : ¬isTagSpace c = true := by rw [hn c List.mem_cons_self]; nofun
    rw [readFrom, if_neg hc, ih fun a ha => hn a (List.mem_cons_of_mem _ ha)]
    simp

theorem ofText_name {n : Text} (hn : ∀ c ∈ n, isTagSpace c = false) : ofText? n = some ⟨n, []⟩ := by
  rw [ofText?, readFrom_inName hn, List.reverse_nil, List.nil_append]

theorem wellFormed_name {n : Text} (hn : isName n = true) : WellFormed ⟨n, []⟩ := ⟨hn, nofun, List.nodup_nil⟩

/-! ### Tags with attributes -/

theorem readFrom_inValue {q : Char} {v : Text} (hv : q ∉ v) (n r : Text) (tag : StartTag) (t : Text) :
    readFrom (.inValue n q r) tag (v ++ q :: t) = readFrom .behindValue (tag.add ⟨n, q, r.reverse ++ v⟩) t := by
  induction v generalizing r with
  | nil => rw [List.nil_append, readFrom, if_pos rfl, List.append_nil]
  | cons c v ih =>
    simp only [List.mem_cons, not_or] at hv
    rw [List.cons_append, readFrom, if_neg (Ne.symm hv.1), ih hv.2]
    simp

/-- Behind the name, reading on adds attributes and changes nothing else. -/
theorem extends_readFrom {p : TagPlace} {tag tag' : StartTag} {t : Text} (hp : ∀ r, p ≠ .inName r)
    (h : readFrom p tag t = some tag') : tag.attributes <+: tag'.attributes ∧ tag'.name = tag.name := by
  fun_induction readFrom p tag t with
  | case1 r => exact absurd rfl (hp r)
  | case2 r => exact absurd rfl (hp r)
  | case3 r => exact absurd rfl (hp r)
  | case4 | case18 =>
    cases h
    exact ⟨List.prefix_rfl, rfl⟩
  | case5 | case6 | case7 | case8 | case9 | case10 | case11 | case13 | case14 | case17 | case19 =>
    rename_i ih
    exact ih nofun h
  | case16 =>
    rename_i ih
    obtain ⟨hattributes, hname⟩ := ih nofun h
    exact ⟨(List.prefix_append _ _).trans hattributes, hname⟩
  | case12 | case15 | case20 | case21 => cases h

theorem takeWhile_of_notMem {v : Text} (h : '"' ∉ v) : v.takeWhile (· != '"') = v :=
  List.takeWhile_eq_self_iff.mpr (Text.bne_of_notMem h)

theorem exists_quote (v : Text) : ∃ rest, v ++ ['"'] = v.takeWhile (· != '"') ++ '"' :: rest := by
  by_cases h : '"' ∈ v
  · obtain ⟨u, w, rfl, hu⟩ := List.eq_append_cons_of_mem h
    refine ⟨w ++ ['"'], ?_⟩
    rw [(Inline.takeWhile_append_cons (Text.bne_of_notMem hu) (by decide) w).1, List.append_assoc, List.cons_append]
  · exact ⟨[], by rw [takeWhile_of_notMem h]⟩

theorem name_of_readFrom {r t : Text} {tag tag' : StartTag} (h : readFrom (.inName r) tag t = some tag') :
    r.reverse <+: tag'.name := by
  induction t generalizing r with
  | nil =>
    cases h
    exact List.prefix_rfl
  | cons c t ih =>
    rw [readFrom] at h
    split at h
    · have hname := (extends_readFrom (p := .gap) nofun h).2
      exact hname ▸ List.prefix_rfl
    · have hmore := ih h
      rw [List.reverse_cons] at hmore
      exact (List.prefix_append _ _).trans hmore

/-- The name of a tag begins with its first character. -/
theorem head_of_ofText {c : Char} {t : Text} {tag : StartTag} (hc : isTagSpace c = false)
    (h : ofText? (c :: t) = some tag) : tag.name.head? = some c := by
  rw [ofText?, readFrom, if_neg (by rw [hc]; nofun)] at h
  obtain ⟨more, hmore⟩ := name_of_readFrom h
  rw [← hmore]
  rfl

section Quoted

/-- A tag that begins with `front` has the name, and then an attribute whose value begins behind `front`. -/
def Begun (front name key : Text) : Prop :=
  ∀ w, ofText? (front ++ w) = readFrom (.inValue key '"' []) ⟨name, []⟩ w

variable {front name key : Text} (hfront : Begun front name key)
include hfront

theorem ofText_quoted {v : Text} (hv : '"' ∉ v) :
    ofText? (front ++ v ++ ['"']) = some ⟨name, [⟨key, '"', v⟩]⟩ := by
  rw [List.append_assoc, hfront, readFrom_inValue hv]
  rfl

/-- The value of the attribute is what stands before the first quote. -/
theorem value_of_ofText {v : Text} {tag : StartTag} (h : ofText? (front ++ v ++ ['"']) = some tag) :
    tag.name = name ∧ tag.value? key = some (v.takeWhile (· != '"')) := by
  obtain ⟨rest, hrest⟩ := exists_quote v
  have hfree : '"' ∉ v.takeWhile (· != '"') := fun hmem => by
    have := List.all_eq_true.mp List.all_takeWhile _ hmem
    simp at this
  rw [List.append_assoc, hfront, hrest, readFrom_inValue hfree] at h
  obtain ⟨⟨more, hmore⟩, hname⟩ := extends_readFrom (p := .behindValue) nofun h
  refine ⟨hname, ?_⟩
  rw [value?, ← hmore]
  simp [add]

end Quoted

/-! ### Escaped values -/

open Inline

theorem begins_escape (t : Text) : Text.Begins '&' (· ∈ xmlEntities) (escape t) := by
  induction t with
  | nil => exact Text.begins_of_notMem List.not_mem_nil
  | cons c t ih =>
    rw [escape_cons]
    refine Text.Begins.append ?_ ih
    by_cases hc : c ∈ reserved
    · have hshape : ∀ e ∈ entities, e = '&' :: e.tail ∧ '&' ∉ e.tail ∧ e ∈ xmlEntities := by decide
      obtain ⟨hcons, hamp, hmem⟩ := hshape _ (entity_of_mem hc)
      rw [hcons] at hmem ⊢
      exact Text.begins_cons hmem hamp
    · rw [entity_of_notMem hc]
      refine Text.begins_of_notMem fun hmem => hc ?_
      rw [← List.mem_singleton.mp hmem]
      decide

theorem isDocumentChar_escape {t : Text} (h : ∀ c ∈ t, isDocumentChar c = true) :
    ∀ c ∈ escape t, isDocumentChar c = true := by
  have hentity : ∀ c ∈ entityChars, isDocumentChar c = true := Text.forall_of_all (by decide)
  intro c hc
  rcases mem_escape hc with ⟨hc, -⟩ | hc
  · exact h c hc
  · exact hentity c hc

theorem isDocumentChar_of_escape {t : Text} (h : ∀ c ∈ escape t, isDocumentChar c = true) :
    ∀ c ∈ t, isDocumentChar c = true := by
  have hreserved : ∀ c ∈ reserved, isDocumentChar c = true := Text.forall_of_all (by decide)
  intro c hc
  by_cases hr : c ∈ reserved
  · exact hreserved c hr
  · refine h c (List.mem_flatMap.mpr ⟨c, hc, ?_⟩)
    rw [entity_of_notMem hr]
    exact List.mem_singleton_self c

theorem wellFormed_escape {key t : Text} (hkey : isName key = true) (hquote : '"' ∉ t)
    (hchars : ∀ c ∈ t, isDocumentChar c = true) : Attribute.WellFormed ⟨key, '"', escape t⟩ where
  name := hkey
  quote := fun h => hquote ((mem_escape_iff (by decide) (by decide)).mp h)
  lt := lt_notMem_escape t
  amp := begins_escape t
  chars := isDocumentChar_escape hchars

/-- What can be read of an escaped value is its source up to the first quote. -/
theorem decode_takeWhile_escape (t : Text) :
    decode ((escape t).takeWhile (· != '"')) = t.takeWhile (· != '"') := by
  rw [takeWhile_escape (Text.forall_of_all (by decide)) (Text.forall_of_all (by decide)), decode_escape]

theorem quote_notMem_of_takeWhile {t : Text} (h : t.takeWhile (· != '"') = t) : '"' ∉ t := fun hmem => by
  have := List.takeWhile_eq_self_iff.mp h _ hmem
  simp at this

end StartTag
end Markup
end WikiArticle
