import WikiArticle.Proofs.Inline.Linked

/-! Marked-up text read back as source. Every start tag stands for a sign of the source, and the end tag that
    matches it for another; with the signs in place of the tags and each entity decoded once, the text is
    the source again but for the white space around the words of its links. -/

namespace WikiArticle
namespace Inline
open Markup Mark

/-! ### Signs in place of tags -/

/-- What the source has in place of a start tag, and in place of the end tag that matches it. -/
def signs (tag : Text) : Text × Text :=
  if tag = "emphasis role=\"bold\"".toList then (['*'], ['*'])
  else if tag = "emphasis".toList then (['_'], ['_'])
  else if tag = "literal".toList then (['\x60'], ['\x60'])
  else ('[' :: (tag.drop "ulink url=\"".toList.length).dropLast ++ [' '], [']'])

/-- The text of some tokens with signs in place of the tags, where `s` are the signs of the elements that are
    open before them, the innermost first. -/
def unmarkFrom : List Text → List Token → Text
  | _, [] => []
  | s, .char c :: ts => c :: unmarkFrom s ts
  | s, .start tag :: ts => (signs tag).1 ++ unmarkFrom ((signs tag).2 :: s) ts
  | sign :: s, .stop _ :: ts => sign ++ unmarkFrom s ts
  | [], .stop name :: ts => (Token.stop name).text ++ unmarkFrom [] ts
  | s, .loose rest :: ts => (Token.loose rest).text ++ unmarkFrom s ts

/-- The text with the signs of the source in place of its tags. -/
def unmark (t : Text) : Text := unmarkFrom [] (tokens t)

theorem signs_spanTag (k : Emphasis) : signs (spanTag k) = ([k.delimiter], [k.delimiter]) := by cases k <;> decide

theorem signs_linkTag (url : Text) : signs (linkTag url) = ('[' :: escape url ++ [' '], [']']) := by
  have hvalue : (linkTag url).drop "ulink url=\"".toList.length = escape url ++ ['"'] := rfl
  have hsigns : signs (linkTag url) =
      ('[' :: ((linkTag url).drop "ulink url=\"".toList.length).dropLast ++ [' '], [']']) := rfl
  rw [hsigns, hvalue, List.dropLast_concat]

/-! ### Spans -/

theorem unmarkFrom_congr (as : List Token) {ts us : List Token} (h : ∀ s, unmarkFrom s ts = unmarkFrom s us)
    (s : List Text) : unmarkFrom s (as ++ ts) = unmarkFrom s (as ++ us) := by
  induction as generalizing s with
  | nil => exact h s
  | cons k as ih =>
    cases k with
    | stop name => cases s <;> simp only [List.cons_append, unmarkFrom, ih]
    | _ => simp only [List.cons_append, unmarkFrom, ih]

/-- Tokens that end no element from outside are read in the same way whatever is open there. -/
theorem unmarkFrom_within {bs : List Token} {u : List Text} {n : Nat} (h : depthAfter bs u.length = some n) :
    ∃ (t : Text) (v : List Text), v.length = n ∧
      ∀ s ts, unmarkFrom (u ++ s) (bs ++ ts) = t ++ unmarkFrom (v ++ s) ts := by
  induction bs generalizing u with
  | nil =>
    cases h
    exact ⟨[], u, rfl, fun s ts => rfl⟩
  | cons k bs ih =>
    obtain ⟨m, hm, h⟩ := Option.bind_eq_some_iff.mp h
    cases k with
    | char c =>
      cases hm
      obtain ⟨t, v, hv, hread⟩ := ih h
      exact ⟨c :: t, v, hv, fun s ts => by rw [List.cons_append, unmarkFrom, hread, List.cons_append]⟩
    | start tag =>
      cases hm
      obtain ⟨t, v, hv, hread⟩ := ih (u := (signs tag).2 :: u) h
      refine ⟨(signs tag).1 ++ t, v, hv, fun s ts => ?_⟩
      rw [List.cons_append, unmarkFrom, ← List.cons_append, hread, List.append_assoc]
    | stop name =>
      cases u with
      | nil => cases hm
      | cons sign u =>
        cases hm
        obtain ⟨t, v, hv, hread⟩ := ih h
        refine ⟨sign ++ t, v, hv, fun s ts => ?_⟩
        rw [List.cons_append, List.cons_append, unmarkFrom, hread, List.append_assoc]
    | loose rest => cases hm

/-- Two tags around whole elements are read as the signs that they stand for. -/
theorem unmarkFrom_wrap {as bs cs : List Token} {d : Char} {tag name : Text} (hsigns : signs tag = ([d], [d]))
    (hbs : depthAfter bs 0 = some 0) (s : List Text) :
    unmarkFrom s (as ++ .start tag :: (bs ++ .stop name :: cs)) =
      unmarkFrom s (as ++ .char d :: (bs ++ .char d :: cs)) := by
  obtain ⟨t, v, hv, hread⟩ := unmarkFrom_within (u := []) hbs
  obtain rfl := List.length_eq_zero_iff.mp hv
  simp only [List.nil_append] at hread
  refine unmarkFrom_congr as (fun r => ?_) s
  simp only [unmarkFrom, hread, hsigns, List.singleton_append]

theorem unmark_spanned {ms ns : List Mark} (h : Spanned ms ns) : unmark (textOf ns) = unmark (textOf ms) := by
  induction h with
  | refl => rfl
  | span _ hd ih =>
    rw [← ih]
    simp only [unmark, tokens_textOf_append, tokens_textOf_cons, tokens_delimiter, tokens_start, tokens_stop,
      List.singleton_append]
    exact unmarkFrom_wrap (signs_spanTag _) hd []

/-! ### White space -/

/-- The text without its white space. -/
def withoutBlanks (t : Text) : Text := t.filter fun c => !Text.isBlank c

theorem withoutBlanks_append (t u : Text) : withoutBlanks (t ++ u) = withoutBlanks t ++ withoutBlanks u :=
  List.filter_append ..

theorem withoutBlanks_cons (c : Char) {t u : Text} (h : withoutBlanks t = withoutBlanks u) :
    withoutBlanks (c :: t) = withoutBlanks (c :: u) := by
  simp only [withoutBlanks, List.filter_cons] at h ⊢
  rw [h]

theorem withoutBlanks_dropWhile (t : Text) : withoutBlanks (t.dropWhile Text.isBlank) = withoutBlanks t := by
  induction t with
  | nil => rfl
  | cons c t ih =>
    by_cases hc : Text.isBlank c = true
    · have hdrop : withoutBlanks (c :: t) = withoutBlanks t := by simp [withoutBlanks, hc]
      rw [List.dropWhile_cons_of_pos hc, ih, hdrop]
    · rw [List.dropWhile_cons_of_neg hc]

theorem withoutBlanks_trim (t : Text) : withoutBlanks (Text.trim t) = withoutBlanks t := by
  have hreverse (t : Text) : withoutBlanks t.reverse = (withoutBlanks t).reverse := List.filter_reverse ..
  rw [Text.trim, Text.trimEnd, hreverse, withoutBlanks_dropWhile, hreverse, List.reverse_reverse, Text.trimStart,
    withoutBlanks_dropWhile]

/-! ### Links -/

/-- A link read back has its url and its words with one space between them. -/
theorem withoutBlanks_link (inside : Text) :
    withoutBlanks (linkUrl inside ++ ' ' :: linkText inside) = withoutBlanks inside := by
  have hspace : withoutBlanks (' ' :: linkText inside) = withoutBlanks (linkText inside) := rfl
  conv => rhs; rw [← List.takeWhile_append_dropWhile (p := isUrlChar) (l := inside), withoutBlanks_append]
  rw [withoutBlanks_append, hspace, linkText, withoutBlanks_trim, linkUrl]

theorem unmarkFrom_chars (t : Text) (s : List Text) (ts : List Token) :
    unmarkFrom s (t.map .char ++ ts) = t ++ unmarkFrom s ts := by
  induction t with
  | nil => rfl
  | cons c t ih => rw [List.map_cons, List.cons_append, unmarkFrom, ih, List.cons_append]

theorem exists_unmark_linkMarks (t : Text) :
    ∃ u, unmark (textOf (linkMarks t)) = escape u ∧ withoutBlanks u = withoutBlanks t := by
  induction hn : t.length using Nat.strongRecOn generalizing t with
  | _ n ih =>
    subst hn
    cases t with
    | nil => exact ⟨[], by rw [linkMarks]; rfl, rfl⟩
    | cons c t =>
      by_cases hc : c = '[' ∧ ']' ∈ t
      · obtain ⟨rfl, hclose⟩ := hc
        obtain ⟨ht, -⟩ := split_at_close hclose
        obtain ⟨u, hu, hblanks⟩ := ih _ (Nat.lt_succ_of_lt (length_behindLink hclose)) (behindLink t) rfl
        have htokens : tokens linkStop.text = [.stop "ulink".toList] := by decide
        refine ⟨'[' :: (linkUrl (insideLink t) ++ ' ' :: linkText (insideLink t)) ++ ']' :: u, ?_, ?_⟩
        · have hopen : entity '[' = ['['] := rfl
          have hclose' : entity ']' = [']'] := rfl
          have hspace : entity ' ' = [' '] := rfl
          have hlink : tokens (linkStart (linkUrl (insideLink t))).text = [.start (linkTag (linkUrl (insideLink t)))] :=
            tokens_tag_nil (gt_notMem_linkTag _)
          simp only [unmark] at hu
          simp only [unmark, linkMarks_span hclose, tokens_textOf_cons, tokens_textOf_append, textOf_chars,
            tokens_chars (lt_notMem_escape _), hlink, htokens, List.singleton_append, unmarkFrom, signs_linkTag,
            unmarkFrom_chars, hu, escape_append, escape_cons, hopen, hclose', hspace]
          simp
        · have hsplit : '[' :: t = '[' :: insideLink t ++ ']' :: behindLink t := by rw [List.cons_append, ← ht]
          rw [hsplit, withoutBlanks_append, withoutBlanks_append, withoutBlanks_cons '[' (withoutBlanks_link _),
            withoutBlanks_cons ']' hblanks]
      · obtain ⟨u, hu, hblanks⟩ := ih _ (Nat.lt_succ_self _) t rfl
        refine ⟨c :: u, ?_, withoutBlanks_cons c hblanks⟩
        simp only [unmark] at hu
        rw [linkMarks_char hc, unmark, tokens_textOf_cons, text_char, tokens_chars (lt_notMem_entity c),
          unmarkFrom_chars, hu, escape_cons]

/-! ### Entities -/

/-- The text with each entity of a reserved character read once. -/
def unescape : Text → Text
  | '&' :: 'a' :: 'm' :: 'p' :: ';' :: t => '&' :: unescape t
  | '&' :: 'l' :: 't' :: ';' :: t => '<' :: unescape t
  | '&' :: 'g' :: 't' :: ';' :: t => '>' :: unescape t
  | c :: t => c :: unescape t
  | [] => []

theorem unescape_cons {c : Char} (h : c ≠ '&') (t : Text) : unescape (c :: t) = c :: unescape t := by
  rw [unescape.eq_4]
  all_goals
    intros
    simp_all

theorem unescape_escape (t : Text) : unescape (escape t) = t := by
  induction t with
  | nil => rfl
  | cons c t ih =>
    rw [escape_cons]
    by_cases hr : c ∈ reserved
    · simp only [reserved, List.mem_cons, List.not_mem_nil, or_false] at hr
      rcases hr with rfl | rfl | rfl <;> simp [entity, unescape, ih]
    · have hamp : c ≠ '&' := fun e => hr (by rw [e]; decide)
      rw [entity_of_notMem hr, List.singleton_append, unescape_cons hamp, ih]

/-- Marking up loses nothing but white space: with signs in place of the tags and every entity read once, the
    marked-up text has the characters of its source. Before the entities are read, it is what was read then
    with every reserved character escaped once, and nothing else. -/
theorem withoutBlanks_unmark_markUp (t : Text) :
    withoutBlanks (unescape (unmark (markUp t))) = withoutBlanks t ∧
    unmark (markUp t) = escape (unescape (unmark (markUp t))) := by
  obtain ⟨ms, hms, hspan⟩ := exists_marks t
  obtain ⟨u, hu, hblanks⟩ := exists_unmark_linkMarks t
  have hunmark : unmark (markUp t) = escape u := by rw [hms, unmark_spanned hspan, hu]
  rw [hunmark, unescape_escape]
  exact ⟨hblanks, rfl⟩

end Inline
end WikiArticle
