import WikiArticle.Proofs.Inline.Linked

/-! The grammar of marked-up text: escaped characters, and links and spans around marked-up text. A text of
    marks whose tags are balanced has this form, since the innermost open element is always the next to
    be ended. Marking up balances its tags, so what it writes has this form for every source. -/

namespace WikiArticle
namespace Inline
open Markup Mark

/-- Text in which reserved characters occur only in the entities that stand for them. -/
inductive Escaped : Text → Prop
  | nil : Escaped []
  | char {c : Char} {t : Text} : c ∉ reserved → Escaped t → Escaped (c :: t)
  | entity {e t : Text} : e ∈ entities → Escaped t → Escaped (e ++ t)

/-- Escaped text with properly nested links and spans. -/
inductive IsInline : Text → Prop
  | nil : IsInline []
  | char {c : Char} {t : Text} : c ∉ reserved → IsInline t → IsInline (c :: t)
  | entity {e t : Text} : e ∈ entities → IsInline t → IsInline (e ++ t)
  | link {url inside t : Text} : Escaped url → IsInline inside → IsInline t →
      IsInline ("<ulink url=\"".toList ++ url ++ "\">".toList ++ inside ++ "</ulink>".toList ++ t)
  | span (k : Emphasis) {inside t : Text} : IsInline inside → IsInline t →
      IsInline (k.startTag ++ inside ++ k.endTag ++ t)

theorem escaped_escape (t : Text) : Escaped (escape t) := by
  induction t with
  | nil => exact Escaped.nil
  | cons c t ih =>
    by_cases hc : c ∈ reserved
    · exact Escaped.entity (entity_of_mem hc) ih
    · rw [escape_cons, entity_of_notMem hc]
      exact Escaped.char hc ih

/-! ### Balanced marks -/

/-- Marked-up text that ends the open elements `s`, the innermost first, with marked-up text between
    their end tags. -/
def Ending : List Text → Text → Prop
  | [], t => IsInline t
  | name :: s, t => ∃ u v, t = u ++ ("</".toList ++ name ++ ">".toList ++ v) ∧ IsInline u ∧ Ending s v

theorem Ending.prepend {w : Text} (hw : ∀ t, IsInline t → IsInline (w ++ t)) {s : List Text} {t : Text}
    (h : Ending s t) : Ending s (w ++ t) := by
  cases s with
  | nil => exact hw t h
  | cons name s =>
    obtain ⟨u, v, rfl, hu, hv⟩ := h
    exact ⟨w ++ u, v, by simp only [List.append_assoc], hw u hu, hv⟩

theorem Ending.stop {name : Text} {s : List Text} {t : Text} (h : Ending s t) :
    Ending (name :: s) ("</".toList ++ name ++ ">".toList ++ t) :=
  ⟨[], t, rfl, IsInline.nil, h⟩

theorem Ending.element {name front : Text} {s : List Text} {t : Text} (h : Ending (name :: s) t)
    (hfront : ∀ u v, IsInline u → IsInline v → IsInline (front ++ u ++ ("</".toList ++ name ++ ">".toList) ++ v)) :
    Ending s (front ++ t) := by
  obtain ⟨u, v, rfl, hu, hv⟩ := h
  have := hv.prepend fun t ht => hfront u t hu ht
  simpa only [List.append_assoc] using this

theorem isInline_entity_append (c : Char) {t : Text} (h : IsInline t) : IsInline (entity c ++ t) := by
  by_cases hc : c ∈ reserved
  · exact IsInline.entity (entity_of_mem hc) h
  · rw [entity_of_notMem hc]
    exact IsInline.char hc h

theorem tokens_char_text (c : Char) : tokens (Mark.char c).text = (entity c).map Token.char :=
  tokens_chars (lt_notMem_entity c)

theorem tokens_linkStart (url : Text) : tokens (linkStart url).text = [Token.start (linkTag url)] :=
  tokens_tag_nil (gt_notMem_linkTag url)

theorem elementName_linkTag (url : Text) : elementName (linkTag url) = "ulink".toList := rfl

theorem tokens_linkStop : tokens linkStop.text = [Token.stop "ulink".toList] := by decide

theorem linkEnd_eq : "</ulink>".toList = "</".toList ++ "ulink".toList ++ ">".toList := rfl

theorem endTag_eq (k : Emphasis) : k.endTag = "</".toList ++ elementName (spanTag k) ++ ">".toList := by
  cases k <;> decide

theorem openAfter_stop {name : Text} {s r : List Text} (h : openAfter [Token.stop name] s = some r) : s = name :: r := by
  obtain ⟨v, hv, hr⟩ := Option.bind_eq_some_iff.mp h
  cases hr
  exact Token.apply_stop hv

theorem ending_of_openAfter {ms : List Mark} {s : List Text} (h : openAfter (tokens (textOf ms)) s = some []) :
    Ending s (textOf ms) := by
  induction ms generalizing s with
  | nil =>
    cases h
    exact IsInline.nil
  | cons m ms ih =>
    rw [tokens_textOf_cons, openAfter_append] at h
    obtain ⟨r, hr, h⟩ := Option.bind_eq_some_iff.mp h
    have hrest := ih h
    rw [textOf_cons]
    cases m with
    | char c =>
      rw [tokens_char_text, openAfter_chars] at hr
      cases hr
      exact hrest.prepend fun t ht => isInline_entity_append c ht
    | linkStart url =>
      rw [tokens_linkStart] at hr
      cases hr
      rw [elementName_linkTag] at hrest
      rw [text_linkStart]
      exact hrest.element fun u v hu hv => IsInline.link (escaped_escape url) hu hv
    | linkStop =>
      rw [tokens_linkStop] at hr
      obtain rfl := openAfter_stop hr
      rw [text_linkStop, linkEnd_eq]
      exact hrest.stop
    | start k =>
      rw [tokens_start] at hr
      cases hr
      refine hrest.element fun u v hu hv => ?_
      rw [text_start, ← endTag_eq]
      exact IsInline.span k hu hv
    | stop k =>
      rw [tokens_stop] at hr
      obtain rfl := openAfter_stop hr
      rw [text_stop, endTag_eq]
      exact hrest.stop

/-! ### The marks of links -/

theorem openAfter_linkMarks (t : Text) (s : List Text) : openAfter (tokens (textOf (linkMarks t))) s = some s := by
  induction hn : t.length using Nat.strongRecOn generalizing t with
  | _ n ih =>
    subst hn
    cases t with
    | nil => rw [linkMarks]; rfl
    | cons c t =>
      by_cases hc : c = '[' ∧ ']' ∈ t
      · obtain ⟨rfl, hclose⟩ := hc
        rw [linkMarks_span hclose, tokens_textOf_cons, tokens_textOf_append, tokens_textOf_cons, tokens_linkStart,
          tokens_linkStop, textOf_chars, tokens_chars (lt_notMem_escape _)]
        simp only [openAfter_append, openAfter, Token.apply, openAfter_chars, Option.bind_some, elementName_linkTag,
          if_true]
        exact ih _ (Nat.lt_succ_of_lt (length_behindLink hclose)) _ rfl
      · rw [linkMarks_char hc, tokens_textOf_cons, tokens_char_text, openAfter_append, openAfter_chars]
        exact ih _ (Nat.lt_succ_self _) _ rfl

theorem isInline_markUp (t : Text) : IsInline (markUp t) := by
  obtain ⟨ms, hms, hspan⟩ := exists_marks t
  rw [hms]
  exact ending_of_openAfter (hspan.openAfter (openAfter_linkMarks t []))

theorem nested_markUp (t : Text) : Nested (markUp t) := by
  obtain ⟨ms, hms, hspan⟩ := exists_marks t
  rw [hms]
  exact ⟨whole_textOf ms, hspan.openAfter (openAfter_linkMarks t [])⟩

/-! ### Tokens of marked-up text -/

theorem lt_notMem_of_escaped {t : Text} (h : Escaped t) : '<' ∉ t ∧ '>' ∉ t := by
  induction h with
  | nil => simp
  | char hc _ ih =>
    simp only [reserved, List.mem_cons, List.not_mem_nil, or_false, not_or] at hc
    simp only [List.mem_cons, not_or]
    exact ⟨⟨Ne.symm hc.2.1, ih.1⟩, Ne.symm hc.2.2, ih.2⟩
  | @entity e t he _ ih =>
    have hfree : ∀ e ∈ entities, '<' ∉ e ∧ '>' ∉ e := by decide
    simp only [List.mem_append, not_or]
    exact ⟨⟨(hfree e he).1, ih.1⟩, (hfree e he).2, ih.2⟩

end Inline
end WikiArticle
