import WikiArticle.Proofs.Inline.Mark

/-! Marking up spans, on marks. Each span turns two delimiters of the source into the tags of its kind, and
    between the two the tags are balanced. All that is true of the marks before and is kept by one such
    turn is true of the result of the marking up. -/

namespace WikiArticle
namespace Inline
open Markup

namespace Mark

/-- The marks `ns` arise from `ms` by marking up spans one after the other. -/
inductive Spanned (ms : List Mark) : List Mark → Prop
  | refl : Spanned ms ms
  /-- One more span is marked up, with whole elements inside it. -/
  | span {as bs cs : List Mark} {k : Emphasis} :
      Spanned ms (as ++ char k.delimiter :: (bs ++ char k.delimiter :: cs)) →
      depthAfter (tokens (textOf bs)) 0 = some 0 → Spanned ms (as ++ start k :: (bs ++ stop k :: cs))

theorem Spanned.trans {ms ns os : List Mark} (h : Spanned ms ns) (h' : Spanned ns os) : Spanned ms os := by
  induction h' with
  | refl => exact h
  | span _ hd ih => exact ih.span hd

/-! ### The marking up -/

theorem exists_replace {k : Emphasis} {ms : List Mark} {p : Emphasis.Pair} (h : Emphasis.pair? k (textOf ms) = some p) :
    ∃ ns, p.replace k = textOf ns ∧ Spanned ms ns := by
  obtain ⟨before, inside, after, ht, hr, hbefore, hinside, hdepth⟩ := Emphasis.cut_of_pair? h
  obtain ⟨as, rest, rfl, rfl, hrest⟩ := split_at_delimiter hbefore ht
  obtain ⟨bs, cs, rfl, rfl, rfl⟩ := split_at_delimiter hinside hrest
  refine ⟨as ++ start k :: (bs ++ stop k :: cs), ?_, Spanned.refl.span hdepth⟩
  rw [hr]
  simp only [textOf_append, textOf_cons]
  rfl

theorem exists_markUpKind (k : Emphasis) (ms : List Mark) :
    ∃ ns, Emphasis.markUpKind k (textOf ms) = textOf ns ∧ Spanned ms ns := by
  -- A replacement takes two delimiters away, so the induction is on how many there are.
  induction hn : (textOf ms).count k.delimiter using Nat.strongRecOn generalizing ms with
  | _ n ih =>
    subst hn
    cases hp : Emphasis.pair? k (textOf ms) with
    | none => exact ⟨ms, Emphasis.markUpKind_of_none hp, Spanned.refl⟩
    | some p =>
      obtain ⟨ns, hns, hspan⟩ := exists_replace hp
      have hcount := Emphasis.count_replace hp
      rw [hns] at hcount
      obtain ⟨os, hos, hspan'⟩ := ih _ (by omega) ns rfl
      exact ⟨os, by rw [Emphasis.markUpKind_of_some hp, hns, hos], hspan.trans hspan'⟩

theorem exists_markUp (ms : List Mark) : ∃ ns, Emphasis.markUp (textOf ms) = textOf ns ∧ Spanned ms ns := by
  obtain ⟨ns₁, h₁, s₁⟩ := exists_markUpKind .bold ms
  obtain ⟨ns₂, h₂, s₂⟩ := exists_markUpKind .italic ns₁
  obtain ⟨ns₃, h₃, s₃⟩ := exists_markUpKind .literal ns₂
  refine ⟨ns₃, ?_, (s₁.trans s₂).trans s₃⟩
  simp only [Emphasis.markUp, Emphasis.all, List.foldl_cons, List.foldl_nil, h₁, h₂, h₃]

/-! ### What a span keeps -/

theorem tokens_textOf_cons (m : Mark) (ms : List Mark) : tokens (textOf (m :: ms)) = tokens m.text ++ tokens (textOf ms) :=
  tokens_append (whole_text m) _

theorem tokens_textOf_append (ms ns : List Mark) :
    tokens (textOf (ms ++ ns)) = tokens (textOf ms) ++ tokens (textOf ns) := by
  rw [textOf_append, tokens_append (whole_textOf ms)]

theorem tokens_delimiter (k : Emphasis) : tokens (char k.delimiter).text = [Token.char k.delimiter] := by
  rw [text_char, entity_of_notMem (delimiter_notMem_reserved k), tokens_cons (by cases k <;> decide), tokens_nil]

/-- What stands between the brackets of the tag that starts a span. -/
def spanTag : Emphasis → Text
  | .bold => "emphasis role=\"bold\"".toList
  | .italic => "emphasis".toList
  | .literal => "literal".toList

theorem tokens_start (k : Emphasis) : tokens (start k).text = [Token.start (spanTag k)] := by
  cases k <;> decide

theorem tokens_stop (k : Emphasis) : tokens (stop k).text = [Token.stop (elementName (spanTag k))] := by
  cases k <;> decide

theorem Spanned.openAfter {ms ns : List Mark} (h : Spanned ms ns) {s r : List Text}
    (hs : openAfter (tokens (textOf ms)) s = some r) : openAfter (tokens (textOf ns)) s = some r := by
  induction h with
  | refl => exact hs
  | span _ hd ih =>
    simp only [tokens_textOf_append, tokens_textOf_cons, tokens_delimiter, tokens_start, tokens_stop,
      List.singleton_append] at ih ⊢
    exact openAfter_wrap hd ih

end Mark
end Inline
end WikiArticle
