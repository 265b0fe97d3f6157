import WikiArticle.Proofs.Line.Heading
import WikiArticle.Proofs.Line.Picture

/-! The grammar of lines. Each recogniser takes the lines of one shape, and the first character that is no white
    space tells the shapes apart, but for a numbered item right at the start of its line, which looks like a
    comment. So the recognisers can be tried in any order, as long as comments come before numbered items. -/

namespace WikiArticle
namespace Line

/-! ### Recognisers -/

/-- What is tried on a line. -/
inductive Recogniser where
  | blank
  | comment
  | fence
  | heading
  | row
  | picture
  | item (kind : ListKind)
  deriving DecidableEq, Repr

namespace Recogniser

/-- What the recogniser makes of a line, if it accepts it. -/
def line? (t : Text) : Recogniser → Option Line
  | blank => if Text.isAllBlank t then some .blank else none
  | comment => if isComment t then some .comment else none
  | fence => (Fence.ofText? t).map .fence
  | heading => (Heading.ofText? t).map fun h => .heading h.level h.title
  | row => if Row.isRow t then some .row else none
  | picture => (Picture.url? t).map .picture
  | item kind => (Item.text? kind t).map (.item kind)

/-- The lines of each shape, with what they are. -/
inductive Takes : Recogniser → Text → Line → Prop
  | blank {t : Text} : (∀ c ∈ t, Text.isBlank c = true) → Takes blank t .blank
  | comment (rest : Text) : Takes comment ('#' :: rest) .comment
  | fence (side : Fence) : Takes fence side.text (.fence side)
  | heading {t inner : Text} {h : Heading} : Heading.ofText? t = some h → Heading.Encloses h.level inner t →
      Takes heading t (.heading h.level (Text.trim inner))
  | row (rest : Text) : Takes row (Row.bar ++ rest) .row
  | picture {t url : Text} : Picture.url? t = some url → Takes picture t (.picture url)
  | item (kind : ListKind) {space rest : Text} : (∀ c ∈ space, Text.isBlank c = true) → '\n' ∉ rest →
      Takes (item kind) (space ++ kind.mark :: ' ' :: rest) (.item kind (Text.trim rest))

/-- The order in which they are tried. -/
def all : List Recogniser := [blank, comment, fence, heading, row, picture, item .itemized, item .ordered]

theorem ofText_eq (t : Text) : ofText t = (all.findSome? (line? t)).getD .prose := by
  have hitem : Item.ofText? t = (Item.text? .itemized t).elim
      ((Item.text? .ordered t).map fun text => ⟨.ordered, text⟩) fun text => some ⟨.itemized, text⟩ := by
    cases hbullet : Item.text? .itemized t with
    | some text => simp [Item.ofText?, hbullet]
    | none => cases hnumber : Item.text? .ordered t <;> simp [Item.ofText?, hbullet, hnumber]
  unfold ofText
  simp only [all, List.findSome?_cons, List.findSome?_nil, line?, hitem]
  cases Text.isAllBlank t with
  | true => rfl
  | false =>
  cases isComment t with
  | true => rfl
  | false =>
  cases Fence.ofText? t with
  | some side => rfl
  | none =>
  cases Heading.ofText? t with
  | some h => rfl
  | none =>
  cases Row.isRow t with
  | true => rfl
  | false =>
  cases Picture.url? t with
  | some url => rfl
  | none =>
  cases Item.text? .itemized t with
  | some text => rfl
  | none => cases Item.text? .ordered t <;> rfl

/-! ### Shapes -/

theorem not_isBlank_mark (kind : ListKind) : Text.isBlank kind.mark = false := by cases kind <;> rfl

theorem trimStart_item (kind : ListKind) {space : Text} (hspace : ∀ c ∈ space, Text.isBlank c = true) (rest : Text) :
    Text.trimStart (space ++ kind.mark :: rest) = kind.mark :: rest := by
  have hmark : ¬Text.isBlank kind.mark = true := by rw [not_isBlank_mark, Bool.not_eq_true]
  rw [Text.trimStart, List.dropWhile_append_of_pos hspace, List.dropWhile_cons_of_neg hmark]

theorem text?_eq_some {kind : ListKind} {t text : Text} : Item.text? kind t = some text ↔
    ∃ space rest, t = space ++ kind.mark :: ' ' :: rest ∧ (∀ c ∈ space, Text.isBlank c = true) ∧ '\n' ∉ rest ∧
      text = Text.trim rest := by
  constructor
  · intro h
    unfold Item.text? at h
    split at h
    · rename_i m rest hstart
      split at h
      · rename_i hline
        cases h
        simp only [Bool.and_eq_true, beq_iff_eq, Bool.not_eq_true', List.contains_eq_mem,
          decide_eq_false_iff_not] at hline
        obtain ⟨rfl, hline⟩ := hline
        refine ⟨t.takeWhile Text.isBlank, rest, ?_, fun c hc => List.mem_takeWhile_imp hc, hline, rfl⟩
        rw [← hstart]
        exact List.takeWhile_append_dropWhile.symm
      · cases h
    · cases h
  · rintro ⟨space, rest, rfl, hspace, hline, rfl⟩
    simp [Item.text?, trimStart_item kind hspace, hline]

theorem text_of_fence {t : Text} {side : Fence} (h : Fence.ofText? t = some side) : t = side.text := by
  unfold Fence.ofText? at h
  split at h
  · cases h
    assumption
  · obtain ⟨ht, ⟨⟩⟩ := Option.ite_none_right_eq_some.mp h
    exact ht

/-- A recogniser accepts the lines of its shape. -/
theorem line?_eq_some {r : Recogniser} {t : Text} {a : Line} : r.line? t = some a ↔ r.Takes t a := by
  constructor
  · intro h
    cases r with
    | blank =>
      obtain ⟨hblank, ⟨⟩⟩ := Option.ite_none_right_eq_some.mp h
      exact Takes.blank (List.all_eq_true.mp hblank)
    | comment =>
      obtain ⟨hcomment, ⟨⟩⟩ := Option.ite_none_right_eq_some.mp h
      obtain ⟨rest, rfl⟩ := List.head?_eq_some_iff.mp (beq_iff_eq.mp hcomment)
      exact Takes.comment rest
    | fence =>
      obtain ⟨side, hside, rfl⟩ := Option.map_eq_some_iff.mp h
      obtain rfl := text_of_fence hside
      exact Takes.fence side
    | heading =>
      obtain ⟨heading, hheading, rfl⟩ := Option.map_eq_some_iff.mp h
      obtain ⟨-, -, ⟨inner, hinner, -⟩, -⟩ := Heading.ofText?_eq_some_iff.mp hheading
      rw [Heading.title_of_encloses hheading hinner]
      exact Takes.heading hheading hinner
    | row =>
      obtain ⟨hrow, ⟨⟩⟩ := Option.ite_none_right_eq_some.mp h
      obtain ⟨rest, rfl⟩ := List.isPrefixOf_iff_prefix.mp hrow
      exact Takes.row rest
    | picture =>
      obtain ⟨url, hurl, rfl⟩ := Option.map_eq_some_iff.mp h
      exact Takes.picture hurl
    | item kind =>
      obtain ⟨text, htext, rfl⟩ := Option.map_eq_some_iff.mp h
      obtain ⟨space, rest, rfl, hspace, hline, rfl⟩ := text?_eq_some.mp htext
      exact Takes.item kind hspace hline
  · intro h
    cases h with
    | blank hblank => exact if_pos (List.all_eq_true.mpr hblank)
    | comment rest => rfl
    | fence side => cases side <;> rfl
    | heading hheading hinner =>
      rw [← Heading.title_of_encloses hheading hinner]
      exact Option.map_eq_some_iff.mpr ⟨_, hheading, rfl⟩
    | row rest => rfl
    | picture hurl => exact Option.map_eq_some_iff.mpr ⟨_, hurl, rfl⟩
    | item kind hspace hline =>
      exact Option.map_eq_some_iff.mpr ⟨_, text?_eq_some.mpr ⟨_, _, rfl, hspace, hline, rfl⟩, rfl⟩

/-! ### First characters -/

/-- The characters that a line of the shape can begin with, white space aside; a blank line has none. -/
def leads : Recogniser → List (Option Char)
  | blank => [none]
  | comment => [some '#']
  | fence => [some '{', some '}']
  | heading => [some '=']
  | row => [some '|']
  | picture => [some '[']
  | item kind => [some kind.mark]

theorem mem_leads {r : Recogniser} {t : Text} {a : Line} (h : r.Takes t a) : (Text.trimStart t).head? ∈ r.leads := by
  cases h with
  | blank hblank =>
    rw [Text.trimStart, List.dropWhile_eq_nil_iff.mpr hblank]
    exact List.mem_singleton_self _
  | comment rest => exact List.mem_singleton_self _
  | fence side => cases side <;> decide
  | heading hheading hinner =>
    obtain ⟨rest, rfl⟩ := Heading.head_of_ofText? hheading
    exact List.mem_singleton_self _
  | row rest => exact List.mem_singleton_self _
  | picture hurl =>
    obtain ⟨rfl, -⟩ := Picture.url?_eq_some.mp hurl
    exact List.mem_singleton_self _
  | item kind hspace hline =>
    rw [trimStart_item kind hspace]
    exact List.mem_singleton_self _

theorem mem_all (r : Recogniser) : r ∈ all := by
  cases r with
  | item kind => cases kind <;> decide
  | _ => decide

/-- A comment and a numbered item can be the same line, and nothing else can. -/
theorem eq_or_overlap {r s : Recogniser} {t : Text} {a b : Line} (hr : r.Takes t a) (hs : s.Takes t b) :
    r = s ∨ r = comment ∧ s = item .ordered ∨ r = item .ordered ∧ s = comment := by
  have hapart : ∀ r ∈ all, ∀ s ∈ all, ∀ x ∈ r.leads, x ∈ s.leads →
      r = s ∨ r = comment ∧ s = item .ordered ∨ r = item .ordered ∧ s = comment := by decide
  exact hapart r (mem_all r) s (mem_all s) _ (mem_leads hr) (mem_leads hs)

/-! ### Orders -/

/-- Every recogniser is tried, and comments before numbered items. -/
structure Sound (order : List Recogniser) : Prop where
  mem : ∀ r, r ∈ order
  comments : order.idxOf comment < order.idxOf (item .ordered)

theorem sound_all : Sound all := ⟨mem_all, by decide⟩

section Order

variable {order : List Recogniser} {t : Text}

/-- The first recogniser that accepts a line takes it for a numbered item only if it is no comment. -/
theorem takes_of_first (h : Sound order) {a : Line} (ha : order.findSome? (line? t) = some a) :
    ∃ r : Recogniser, r.Takes t a ∧ (r = item .ordered → isComment t = false) := by
  obtain ⟨before, r, after, horder, hr, hbefore⟩ := List.findSome?_eq_some_iff.mp ha
  refine ⟨r, line?_eq_some.mp hr, ?_⟩
  rintro rfl
  have hcomment : comment ∈ before := by
    by_contra hmem
    have hfirst := h.comments
    rw [horder, List.idxOf_append, if_neg hmem, List.idxOf_append] at hfirst
    split at hfirst
    · have := List.idxOf_lt_length_of_mem ‹_›
      omega
    · rw [List.idxOf_cons_self] at hfirst
      omega
  have hnone := hbefore comment hcomment
  rw [line?, ite_eq_right_iff] at hnone
  rw [← Bool.not_eq_true]
  exact fun hline => nomatch hnone hline

theorem not_takes_of_none (h : Sound order) (hnone : order.findSome? (line? t) = none) (r : Recogniser) (a : Line) :
    ¬r.Takes t a := fun hr => by
  have := List.findSome?_eq_none_iff.mp hnone r (h.mem r)
  rw [line?_eq_some.mpr hr] at this
  cases this

theorem eq_of_takes {r s : Recogniser} {a b : Line} (hr : r.Takes t a) (hs : s.Takes t b)
    (hr' : r = item .ordered → isComment t = false) (hs' : s = item .ordered → isComment t = false) : a = b := by
  have hcomment {c : Line} (h : comment.Takes t c) : isComment t = true := by
    cases h with
    | comment rest => rfl
  rcases eq_or_overlap hr hs with rfl | ⟨rfl, rfl⟩ | ⟨rfl, rfl⟩
  · exact Option.some_inj.mp ((line?_eq_some.mpr hr).symm.trans (line?_eq_some.mpr hs))
  · rw [hcomment hr] at hs'
    cases hs' rfl
  · rw [hcomment hs] at hr'
    cases hr' rfl

theorem first_eq_of_takes (h : Sound order) {r : Recogniser} {a : Line} (hr : r.Takes t a)
    (hr' : r = item .ordered → isComment t = false) : order.findSome? (line? t) = some a := by
  cases hfirst : order.findSome? (line? t) with
  | none => exact absurd hr (not_takes_of_none h hfirst r a)
  | some b =>
    obtain ⟨s, hs, hs'⟩ := takes_of_first h hfirst
    rw [eq_of_takes hr hs hr' hs']

/-- Two orders find the same, as both find what the grammar says. -/
theorem first_eq_first {others : List Recogniser} (h : Sound order) (hothers : Sound others) :
    order.findSome? (line? t) = others.findSome? (line? t) := by
  cases hfirst : others.findSome? (line? t) with
  | some a =>
    obtain ⟨r, hr, hr'⟩ := takes_of_first hothers hfirst
    exact first_eq_of_takes h hr hr'
  | none =>
    exact List.findSome?_eq_none_iff.mpr fun r _ => Option.eq_none_iff_forall_ne_some.mpr fun a ha =>
      not_takes_of_none hothers hfirst r a (line?_eq_some.mp ha)

end Order

theorem Takes.ne_prose {r : Recogniser} {t : Text} {a : Line} (h : r.Takes t a) : a ≠ .prose := by
  cases h <;> nofun

theorem Takes.text? {r : Recogniser} {t text : Text} {kind : ListKind} (h : r.Takes t (.item kind text)) :
    Item.text? kind t = some text := by
  cases h with
  | item kind hspace hline => exact text?_eq_some.mpr ⟨_, _, rfl, hspace, hline, rfl⟩

end Recogniser

open Recogniser

theorem text?_of_item {t text : Text} {kind : ListKind} (h : ofText t = .item kind text) :
    Item.text? kind t = some text := by
  rw [ofText_eq] at h
  cases hfirst : all.findSome? (line? t) with
  | none =>
    rw [hfirst] at h
    cases h
  | some a =>
    rw [hfirst] at h
    obtain rfl : a = .item kind text := h
    obtain ⟨r, hr, -⟩ := takes_of_first sound_all hfirst
    exact hr.text?

/-- Every line has one shape of the grammar at most, unless it is both a comment and a numbered item, and is what its
    shape says: a comment in that case, and prose if it has no shape. The recognisers accept just the lines of
    their shapes, so every order that tries comments before numbered items finds the same. -/
theorem ofText_exact (t : Text) :
    (∀ (r : Recogniser) (a : Line), r.line? t = some a ↔ r.Takes t a) ∧
    (∀ (r s : Recogniser) (a b : Line), r.Takes t a → s.Takes t b →
      r = s ∧ a = b ∨ r = .comment ∧ s = .item .ordered ∨ r = .item .ordered ∧ s = .comment) ∧
    (∀ (r : Recogniser) (a : Line), r.Takes t a → (r = .item .ordered → isComment t = false) → ofText t = a) ∧
    (ofText t = .prose ↔ ∀ (r : Recogniser) (a : Line), ¬r.Takes t a) ∧
    ∀ order, Sound order → (order.findSome? (line? t)).getD .prose = ofText t := by
  refine ⟨fun _ _ => line?_eq_some, fun r s a b hr hs => ?_, fun r a hr hr' => ?_, ⟨fun h r a hr => ?_, fun h => ?_⟩,
    fun order horder => ?_⟩
  · refine (eq_or_overlap hr hs).imp_left ?_
    rintro rfl
    exact ⟨rfl, Option.some_inj.mp ((line?_eq_some.mpr hr).symm.trans (line?_eq_some.mpr hs))⟩
  · rw [ofText_eq, first_eq_of_takes sound_all hr hr', Option.getD_some]
  · cases hfirst : all.findSome? (line? t) with
    | none => exact not_takes_of_none sound_all hfirst r a hr
    | some b =>
      obtain ⟨s, hs, -⟩ := takes_of_first sound_all hfirst
      rw [ofText_eq, hfirst, Option.getD_some] at h
      exact hs.ne_prose h
  · cases hfirst : all.findSome? (line? t) with
    | none => rw [ofText_eq, hfirst, Option.getD_none]
    | some b =>
      obtain ⟨s, hs, -⟩ := takes_of_first sound_all hfirst
      exact absurd hs (h s b)
  · rw [ofText_eq, first_eq_first horder sound_all]

/-- A line of two shapes. -/
theorem ofText_hash_item : Recogniser.comment.Takes ['#', ' ', 'a'] .comment ∧
    (Recogniser.item .ordered).Takes ['#', ' ', 'a'] (.item .ordered ['a']) ∧ ofText ['#', ' ', 'a'] = .comment := by
  have hcomment : Recogniser.comment.Takes ['#', ' ', 'a'] .comment := Takes.comment [' ', 'a']
  have hspace : ∀ c ∈ ([] : Text), Text.isBlank c = true := nofun
  have hline : '\n' ∉ ['a'] := by decide
  exact ⟨hcomment, Takes.item .ordered hspace hline, (ofText_exact _).2.2.1 .comment .comment hcomment nofun⟩

end Line
end WikiArticle
