import WikiArticle.Inline.Emphasis.MarkUp
import WikiArticle.Proofs.Markup.Nesting
import WikiArticle.Proofs.Text.Seek

/-! Where the two delimiters of a pair stand. Neither stands in a tag, and the tags between them end just
    the elements that they start. Both follow from what the two searches have passed when they stop: whole
    tags, and for the closing delimiter as many ends as starts. -/

namespace WikiArticle
namespace Inline
open Markup

/-! ### Passing a tag -/

theorem endsTag_leadByte (c : Char) : endsTag (Cursor.leadByte c) = true ↔ c = '>' := by
  rw [endsTag, beq_iff_eq]
  exact Cursor.leadByte_eq_iff (by decide)

theorem endsTag_of_notMem {w : Text} (h : '>' ∉ w) : ∀ a ∈ w, endsTag (Cursor.leadByte a) = false := by
  intro a ha
  rw [← Bool.not_eq_true, endsTag_leadByte]
  rintro rfl
  exact h ha

theorem startsWith_stop (passed rest : Text) :
    Cursor.startsWith ⟨passed, '<' :: rest, 0⟩ ['<', '/'] = true ↔ rest.head? = some '/' := by
  have hb : Cursor.bytes ['<', '/'] = [Cursor.leadByte '<', Cursor.leadByte '/'] := rfl
  have hc : Cursor.bytes ('<' :: rest) = Cursor.leadByte '<' :: Cursor.bytes rest := rfl
  simp only [Cursor.startsWith_eq, hb, hc, List.drop_zero, List.isPrefixOf_cons_cons_self]
  cases rest with
  | nil => simp [Cursor.bytes]
  | cons a rest =>
    obtain ⟨b, bs, hbs⟩ := List.exists_cons_of_length_pos
      (show 0 < (String.utf8EncodeChar a).length by rw [String.length_utf8EncodeChar]; exact a.utf8Size_pos)
    have hlead := Cursor.head?_utf8EncodeChar a
    rw [hbs, List.head?_cons, Option.some_inj] at hlead
    simp only [Cursor.bytes, List.flatMap_cons, hbs, List.cons_append, List.isPrefixOf_cons_cons, hlead,
      List.head?_cons, Option.some_inj, Bool.and_eq_true, beq_iff_eq]
    rw [eq_comm, Cursor.leadByte_eq_iff (by decide)]
    simp

theorem behindTag_whole {w : Text} (h : '>' ∉ w) (passed rest : Text) :
    behindTag ⟨passed, '<' :: w ++ '>' :: rest, 0⟩ = ⟨'>' :: (w.reverse ++ '<' :: passed), rest, 0⟩ := by
  have hw : '>' ∉ '<' :: w := by simp [h]
  have hs := Cursor.seek_of_found (endsTag_of_notMem hw) ((endsTag_leadByte '>').mpr rfl) passed rest
  simp only [behindTag, Cursor.skipUntil, if_true, hs]
  simp [Cursor.next?]

theorem behindTag_loose {w : Text} (h : '>' ∉ w) (passed : Text) :
    behindTag ⟨passed, '<' :: w, 0⟩ = ⟨w.reverse ++ '<' :: passed, [], 0⟩ := by
  have hw : '>' ∉ '<' :: w := by simp [h]
  have hs := Cursor.seek_of_none (endsTag_of_notMem hw) passed
  simp only [behindTag, Cursor.skipUntil, if_true, hs]
  simp [Cursor.next?]

/-- A tag is passed up to its `>`; one that has none, up to the end. -/
theorem tag?_some {c d : Cursor} {g : Tag} (hc : c.offset = 0) (h : tag? c = some (g, d)) : d.offset = 0 ∧
    ∃ w, '>' ∉ w ∧ (Cursor.Spans c ('<' :: w) d ∧ d.ahead = [] ∨
      Cursor.Spans c ('<' :: w ++ ['>']) d ∧ g = if w.head? = some '/' then .stop else .start) := by
  obtain ⟨passed, ahead, offset⟩ := c
  simp only at hc
  subst hc
  unfold tag? at h
  split at h
  · rename_i hlt
    obtain ⟨-, rest, ha⟩ := Cursor.isAt_iff.mp hlt
    simp only at ha
    subst ha
    simp only [startsWith_stop, Option.some.injEq, Prod.mk.injEq] at h
    obtain ⟨hg, rfl⟩ := h
    by_cases hm : '>' ∈ rest
    · obtain ⟨w, r, rfl, hw⟩ := List.eq_append_cons_of_mem hm
      have hd := behindTag_whole hw passed r
      rw [List.cons_append] at hd
      rw [hd]
      refine ⟨rfl, w, hw, Or.inr ⟨⟨by simp, by simp⟩, ?_⟩⟩
      rw [← hg]
      cases w <;> simp
    · rw [behindTag_loose hm]
      exact ⟨rfl, rest, hm, Or.inl ⟨⟨by simp, by simp⟩, rfl⟩⟩
  · cases h

theorem tag?_none {c : Cursor} (hc : c.offset = 0) (h : tag? c = none) : c.ahead.head? ≠ some '<' := by
  intro hlt
  have hat : c.isAt '<' = true := by simp [Cursor.isAt, Cursor.char?, hc, hlt]
  simp [tag?, hat] at h

/-! ### What a search has passed -/

/-- Between two places lies text with whole tags only, which leads from depth `m` to depth `n`. -/
structure Passes (c d : Cursor) (m n : Nat) (w : Text) : Prop where
  spans : Cursor.Spans c w d
  whole : Whole w
  depth : depthAfter (tokens w) m = some n

theorem depth?_ofTag (w : Text) (n : Nat) : (Token.ofTag w).depth? n =
    if w.head? = some '/' then (match n with | 0 => none | m + 1 => some m) else some (n + 1) := by
  unfold Token.ofTag
  split
  · cases n <;> rfl
  · rename_i h
    cases w with
    | nil => rfl
    | cons a w =>
      have ha : a ≠ '/' := fun e => h w (by rw [e])
      simp [Token.depth?, ha]

namespace Passes

theorem refl (c : Cursor) (n : Nat) : Passes c c n n [] := ⟨Cursor.Spans.refl c, whole_nil, rfl⟩

theorem tag {c d e : Cursor} {m n k : Nat} {w v : Text} (h : Passes c d m n w) (hv : '>' ∉ v)
    (hs : Cursor.Spans d ('<' :: v ++ ['>']) e) (hk : (Token.ofTag v).depth? n = some k) :
    Passes c e m k (w ++ ('<' :: v ++ ['>'])) where
  spans := h.spans.trans hs
  whole := h.whole.append (whole_tag hv)
  depth := by
    rw [tokens_append h.whole, depthAfter_append, h.depth, tokens_tag_nil hv]
    simp [depthAfter, hk]

theorem char {c d e : Cursor} {m n : Nat} {w : Text} {a : Char} (h : Passes c d m n w) (ha : a ≠ '<')
    (hs : Cursor.Spans d [a] e) : Passes c e m n (w ++ [a]) where
  spans := h.spans.trans hs
  whole := h.whole.append (whole_chars (by simp [ha.symm]))
  depth := by
    rw [tokens_append h.whole, depthAfter_append, h.depth, tokens_cons ha]
    rfl

end Passes

namespace Emphasis

/-- What holds in every turn of the search for the closing delimiter of a span that begins at `c`. -/
structure Closing (c : Cursor) (s : Search) : Prop where
  offset : s.place.offset = 0
  passes : s.place.ahead = [] ∨ ∃ w, Passes c s.place 0 s.depth w

theorem pass_some {c d : Cursor} (hc : c.offset = 0) (h : tag? c = none) (hd : pass c = some d) :
    d.offset = 0 ∧ ∃ a, a ≠ '<' ∧ Cursor.Spans c [a] d := by
  obtain ⟨a, ha⟩ := pass_eq_some hd
  obtain ⟨rest, -, hr, rfl⟩ := Cursor.next?_eq_some.mp ha
  refine ⟨rfl, a, fun e => ?_, Cursor.spans_of_next? ha⟩
  exact tag?_none hc h (by rw [hr, e]; rfl)

theorem closing_next {k : Emphasis} {c : Cursor} {s t : Search} (h : Closing c s) (ht : closerTurn k s = .next t) :
    Closing c t := by
  obtain ⟨hoff, hpass⟩ := h
  have hahead : s.place.ahead ≠ [] := fun e => by
    have := (closerTurn_next ht).2
    simp [e] at this
  obtain ⟨w, hw⟩ := hpass.resolve_left hahead
  unfold closerTurn at ht
  split at ht
  · rename_i d htag
    cases ht
    obtain ⟨hd, v, hv, ⟨-, hnil⟩ | ⟨hs, hg⟩⟩ := tag?_some hoff htag
    · exact ⟨hd, Or.inl hnil⟩
    · refine ⟨hd, Or.inr ⟨_, hw.tag hv hs ?_⟩⟩
      split at hg
      · cases hg
      · rename_i hslash
        rw [depth?_ofTag, if_neg hslash]
  · cases ht
  · rename_i d n htag hn
    cases ht
    obtain ⟨hd, v, hv, ⟨-, hnil⟩ | ⟨hs, hg⟩⟩ := tag?_some hoff htag
    · exact ⟨hd, Or.inl hnil⟩
    · refine ⟨hd, Or.inr ⟨_, hw.tag hv hs ?_⟩⟩
      split at hg
      · rename_i hslash
        rw [depth?_ofTag, if_pos hslash, hn]
      · cases hg
  · rename_i htag
    split at ht
    · cases ht
    · split at ht
      · rename_i hd
        cases ht
        obtain ⟨hoff', a, ha, hs⟩ := pass_some hoff htag hd
        exact ⟨hoff', Or.inr ⟨_, hw.char ha hs⟩⟩
      · cases ht

theorem passes_of_closerFrom {k : Emphasis} {c d : Cursor} (hc : c.offset = 0)
    (h : closerFrom k ⟨c, 0⟩ = some d) : ∃ w, Passes c d 0 0 w := by
  refine Turn.run_induct (Closing c) (fun a => ∀ d, a = some d → ∃ w, Passes c d 0 0 w)
    (fun s t hs ht => closing_next hs ht) (fun s a hs ha d hd => ?_)
    ⟨hc, Or.inr ⟨[], Passes.refl c 0⟩⟩ d h
  subst hd
  unfold closerTurn at ha
  split at ha <;> try cases ha
  split at ha
  · rename_i hat
    cases ha
    simp only [Bool.and_eq_true, beq_iff_eq] at hat
    obtain ⟨⟨hat, hdepth⟩, -⟩ := hat
    obtain ⟨-, rest, hahead⟩ := Cursor.isAt_iff.mp hat
    obtain ⟨w, hw⟩ := hs.passes.resolve_left (by simp [hahead])
    exact ⟨w, hdepth ▸ hw⟩
  · split at ha <;> cases ha

/-- What holds in every turn of the search for a pair that begins at `c`. -/
structure Opening (c d : Cursor) : Prop where
  offset : d.offset = 0
  passes : d.ahead = [] ∨ ∃ w, Cursor.Spans c w d ∧ Whole w

theorem opening_next {k : Emphasis} {c d e : Cursor} (h : Opening c d) (he : pairTurn k d = .next e) :
    Opening c e := by
  obtain ⟨hoff, hpass⟩ := h
  have hahead : d.ahead ≠ [] := fun hnil => by
    have := (pairTurn_next he).2
    simp [hnil] at this
  obtain ⟨w, hspans, hw⟩ := hpass.resolve_left hahead
  unfold pairTurn at he
  split at he
  · rename_i htag
    cases he
    obtain ⟨hoff', v, hv, ⟨-, hnil⟩ | ⟨hs, -⟩⟩ := tag?_some hoff htag
    · exact ⟨hoff', Or.inl hnil⟩
    · exact ⟨hoff', Or.inr ⟨_, hspans.trans hs, hw.append (whole_tag hv)⟩⟩
  · rename_i htag
    split at he
    · cases he
    · rename_i hd
      cases he
      obtain ⟨hoff', a, ha, hs⟩ := pass_some hoff htag hd
      exact ⟨hoff', Or.inr ⟨_, hspans.trans hs, hw.append (whole_chars (by simp [ha.symm]))⟩⟩
    · cases he

theorem whole_of_pairFrom {k : Emphasis} {c : Cursor} {p : Pair} (hc : c.offset = 0)
    (h : pairFrom k c = some p) : ∃ w, Cursor.Spans c w p.opening ∧ Whole w := by
  refine Turn.run_induct (Opening c) (fun a => ∀ p, a = some p → ∃ w, Cursor.Spans c w p.opening ∧ Whole w)
    (fun d e hd he => opening_next hd he) (fun d a hd ha p hp => ?_)
    ⟨hc, Or.inr ⟨[], Cursor.Spans.refl c, whole_nil⟩⟩ p h
  subst hp
  unfold pairTurn at ha
  split at ha
  · cases ha
  split at ha
  · rename_i hq
    cases ha
    obtain ⟨ho, hat, -⟩ := pairAt?_some hq
    obtain ⟨-, rest, hahead⟩ := Cursor.isAt_iff.mp hat
    rw [ho]
    exact hd.passes.resolve_left (by simp [hahead])
  · cases ha
  · cases ha

/-! ### The pair -/

/-- No tag runs into a delimiter of a pair, and the elements between the two are whole. -/
theorem whole_of_cuts {k : Emphasis} {t : Text} {p : Pair} (h : pair? k t = some p) {before inside after : Text}
    (hcut : p.Cuts k before inside after) :
    Whole before ∧ Whole inside ∧ depthAfter (tokens inside) 0 = some 0 := by
  obtain ⟨u, hu, hwhole⟩ := whole_of_pairFrom rfl h
  have hbefore : u = before := by
    have := hu.1
    rw [hcut.opening] at this
    simpa [Cursor.start] using this.symm
  obtain ⟨-, hat, -, hcloser⟩ := pairAt?_some (pairFrom_some h).2
  have hskip := Cursor.skip_one hat k.utf8Size_delimiter
  obtain ⟨w, hw⟩ := passes_of_closerFrom (by rw [hskip]) hcloser
  have hinside : w = inside := by
    have := hw.spans.1
    rw [hskip, hcut.opening, hcut.closing] at this
    simpa using this.symm
  exact ⟨hbefore ▸ hwhole, hinside ▸ hw.whole, hinside ▸ hw.depth⟩

/-- The text is cut by a pair at two delimiters outside its tags, with whole elements between them. -/
theorem cut_of_pair? {k : Emphasis} {t : Text} {p : Pair} (h : pair? k t = some p) : ∃ before inside after,
    t = before ++ k.delimiter :: (inside ++ k.delimiter :: after) ∧
    p.replace k = before ++ (k.startTag ++ (inside ++ (k.endTag ++ after))) ∧
    Whole before ∧ Whole inside ∧ depthAfter (tokens inside) 0 = some 0 := by
  obtain ⟨before, inside, after, hcut, ht⟩ := cuts_of_pair? h
  exact ⟨before, inside, after, by simpa using ht, by simpa using hcut.replace, whole_of_cuts h hcut⟩

end Emphasis
end Inline
end WikiArticle
