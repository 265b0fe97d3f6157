import WikiArticle.Proofs.Inline.Taken
import WikiArticle.Proofs.Text.Budget

/-! Marking up spans with a number of turns for each loop: the search for the end of a tag, the search for a
    closing delimiter, the search for a pair, and the rewriting of pair after pair. Here a loop looks at bytes
    and steps over characters, and would turn for ever at a place where it sees a byte and no character. No
    loop ever starts at such a place, so each of them stops, and with what the marking up takes from it. -/

namespace WikiArticle
namespace Inline
open Markup

/-! ### The loops -/

/-- The tag that begins at a place, if one does, and the place behind it. -/
def tagWithin (n : Nat) (c : Cursor) : Option (Option (Tag × Cursor)) :=
  if c.byte? = some (Cursor.leadByte '<') then
    (c.skipUntilWithin n endsTag).map fun d => some (if c.startsWith ['<', '/'] then .stop else .start, d.bump)
  else some none

namespace Emphasis

/-- One turn of the search for a closing delimiter. -/
def closerTurnWithin (n : Nat) (k : Emphasis) (s : Search) : Option (Turn Search (Option Cursor)) :=
  (tagWithin n s.place).map fun
    | some (.start, d) => .next ⟨d, s.depth + 1⟩
    | some (.stop, d) => if s.depth = 0 then .done none else .next ⟨d, s.depth - 1⟩
    | none =>
      match s.place.byte? with
      | none => .done none
      | some b =>
        if b = Cursor.leadByte k.delimiter ∧ s.depth = 0 ∧ k.closes s.place = true then .done (some s.place)
        else .next ⟨s.place.bump, s.depth⟩

/-- The closing delimiter of the span that the delimiter at a place opens. -/
def closerWithin (n : Nat) (k : Emphasis) (c : Cursor) : Option (Option Cursor) :=
  Turn.within (closerTurnWithin n k) n ⟨c.skip 1, 0⟩

/-- One turn of the search for a pair. -/
def pairTurnWithin (n : Nat) (k : Emphasis) (c : Cursor) : Option (Turn Cursor (Option Pair)) :=
  (tagWithin n c).bind fun
    | some (_, d) => some (.next d)
    | none =>
      match c.byte? with
      | none => some (.done none)
      | some b =>
        if b = Cursor.leadByte k.delimiter ∧ k.opens c = true then
          (closerWithin n k c).map fun
            | some d => .done (some ⟨c, d⟩)
            | none => .next c.bump
        else some (.next c.bump)

/-- The first pair of a text. -/
def pairWithin (n : Nat) (k : Emphasis) (t : Text) : Option (Option Pair) :=
  Turn.within (pairTurnWithin n k) n (Cursor.start t)

/-- One turn of the rewriting: the first pair is replaced, or there is none. -/
def rewriteTurnWithin (n : Nat) (k : Emphasis) (t : Text) : Option (Turn Text Text) :=
  (pairWithin n k t).map fun
    | some p => .next (p.replace k)
    | none => .done t

/-- The text with every span of one kind marked up, if it takes no more than `rewrites` of them. -/
def markUpKindWithin (n rewrites : Nat) (k : Emphasis) (t : Text) : Option Text :=
  Turn.within (rewriteTurnWithin n k) (rewrites + 1) t

/-- The text with every emphasised span marked up, if no search takes more than `n` turns and no kind more
    rewrites than its number. -/
def markUpWithin (n : Nat) (rewrites : Emphasis → Nat) (t : Text) : Option Text :=
  all.foldlM (fun t k => markUpKindWithin n (rewrites k) k t) t

end Emphasis

/-! ### The searches stop -/

/-- At a place between characters a search sees no byte just at the end, and the byte that it sees elsewhere is
    that of a character, which it steps over. -/
theorem byte?_cases {c : Cursor} (h : c.offset = 0) :
    (c.byte? = none ∧ (∀ a, c.isAt a = false) ∧ Emphasis.pass c = none) ∨
    ∃ b, c.byte? = some b ∧ (∀ a : Char, a.toNat ≤ 0x7F → (b = Cursor.leadByte a ↔ c.isAt a = true)) ∧
      Emphasis.pass c = some c.bump := by
  have hiff {a : Char} (ha : a.toNat ≤ 0x7F) := Cursor.byte?_eq_iff h ha
  rw [Cursor.byte?_eq h] at hiff ⊢
  obtain ⟨passed, ahead, offset⟩ := c
  simp only at h
  subst h
  cases ahead with
  | nil => exact Or.inl ⟨rfl, fun a => rfl, rfl⟩
  | cons a rest => exact Or.inr ⟨_, rfl, fun a ha => by rw [← hiff ha]; simp, rfl⟩

theorem tagWithin_eq {n : Nat} {c : Cursor} (h : c.offset = 0) (hn : c.ahead.length < n) :
    tagWithin n c = some (tag? c) := by
  have hbehind : (c.skipUntil endsTag).bump = behindTag c := rfl
  unfold tagWithin tag?
  rw [Cursor.skipUntilWithin_eq h hn]
  by_cases hlt : c.isAt '<' = true
  · rw [if_pos ((Cursor.byte?_eq_iff h (by decide)).mpr hlt), if_pos hlt, Option.map_some, hbehind]
  · rw [if_neg (mt (Cursor.byte?_eq_iff h (by decide)).mp hlt), if_neg hlt]

namespace Emphasis

theorem isAscii_delimiter (k : Emphasis) : k.delimiter.toNat ≤ 0x7F := by cases k <;> decide

/-- What holds of the places that a search gets to: none lies inside a character, and `n` turns are enough for
    any search from there. -/
structure Searches (n : Nat) (c : Cursor) : Prop where
  offset : c.offset = 0
  length : c.ahead.length < n

variable {n : Nat} {k : Emphasis} {c d : Cursor}

theorem Searches.tag {g : Tag} (h : Searches n c) (htag : tag? c = some (g, d)) : Searches n d :=
  ⟨(tag?_some h.offset htag).1, Nat.lt_trans (length_ahead_of_tag? htag) h.length⟩

theorem Searches.pass (h : Searches n c) (hd : Emphasis.pass c = some d) : Searches n d := by
  obtain ⟨a, ha⟩ := pass_eq_some hd
  obtain ⟨rest, -, -, rfl⟩ := Cursor.next?_eq_some.mp ha
  exact ⟨rfl, Nat.lt_trans (Cursor.length_ahead_of_next? ha) h.length⟩

theorem Searches.closerTurn {s t : Search} (h : Searches n s.place) (ht : closerTurn k s = .next t) :
    Searches n t.place := by
  unfold Emphasis.closerTurn at ht
  split at ht
  · rename_i htag
    cases ht
    exact h.tag htag
  · cases ht
  · rename_i htag _
    cases ht
    exact h.tag htag
  · split at ht
    · cases ht
    · split at ht
      · rename_i hd
        cases ht
        exact h.pass hd
      · cases ht

theorem Searches.pairTurn (h : Searches n c) (hd : pairTurn k c = .next d) : Searches n d := by
  unfold Emphasis.pairTurn at hd
  split at hd
  · rename_i htag
    cases hd
    exact h.tag htag
  · split at hd
    · cases hd
    · rename_i hpass
      cases hd
      exact h.pass hpass
    · cases hd

theorem closerTurnWithin_eq {s : Search} (h : Searches n s.place) : closerTurnWithin n k s = some (closerTurn k s) := by
  obtain ⟨c, depth⟩ := s
  rw [closerTurnWithin, tagWithin_eq h.offset h.length, Option.map_some]
  unfold closerTurn
  cases htag : tag? c with
  | some p =>
    obtain ⟨g, d⟩ := p
    cases g with
    | start => rfl
    | stop => cases depth <;> rfl
  | none =>
    rcases byte?_cases h.offset with ⟨hbyte, hat, hpass⟩ | ⟨b, hbyte, hat, hpass⟩
    · simp [hbyte, hat, hpass]
    · simp only [hbyte, hpass, hat _ k.isAscii_delimiter]
      by_cases hcloses : c.isAt k.delimiter = true ∧ depth = 0 ∧ k.closes c = true
      · rw [if_pos hcloses, if_pos (by simpa [and_assoc] using hcloses)]
      · rw [if_neg hcloses, if_neg (by simpa [and_assoc] using hcloses)]

theorem closerWithin_eq (h : Searches n c) (hat : c.isAt k.delimiter = true) : closerWithin n k c = some (k.closer? c) := by
  have hskip : Searches n (c.skip 1) := by
    obtain ⟨-, rest, hahead⟩ := Cursor.isAt_iff.mp hat
    have hlength := h.length
    rw [Cursor.skip_one hat k.utf8Size_delimiter]
    exact ⟨rfl, by rw [hahead] at hlength ⊢; exact Nat.lt_of_succ_lt hlength⟩
  exact Turn.within_eq_run (fun s => Searches n s.place) (fun s hs => closerTurnWithin_eq hs)
    (fun s t hs ht => hs.closerTurn ht) hskip hskip.length

theorem pairTurnWithin_eq (h : Searches n c) : pairTurnWithin n k c = some (pairTurn k c) := by
  rw [pairTurnWithin, tagWithin_eq h.offset h.length, Option.bind_some]
  unfold pairTurn
  cases htag : tag? c with
  | some p => rfl
  | none =>
    rcases byte?_cases h.offset with ⟨hbyte, hat, hpass⟩ | ⟨b, hbyte, hat, hpass⟩
    · simp [hbyte, hat, hpass, pairAt?]
    · simp only [hbyte, hpass, hat _ k.isAscii_delimiter, pairAt?]
      by_cases hopens : c.isAt k.delimiter = true ∧ k.opens c = true
      · rw [if_pos hopens, if_pos (by simpa using hopens), closerWithin_eq h hopens.1]
        cases k.closer? c <;> rfl
      · rw [if_neg hopens, if_neg (by simpa using hopens)]

theorem pairWithin_eq {t : Text} (h : t.length < n) : pairWithin n k t = some (pair? k t) := by
  have hstart : Searches n (Cursor.start t) := ⟨rfl, h⟩
  exact Turn.within_eq_run (Searches n) (fun c hc => pairTurnWithin_eq hc) (fun c d hc hd => hc.pairTurn hd)
    hstart hstart.length

/-! ### The rewriting stops -/

/-- A length that the text does not outgrow while its spans are marked up. The tags of a span are longer than its
    two delimiters by less than what these count here. -/
def weight (t : Text) : Nat := t.length + 16 * all.foldr (fun k n => t.count k.delimiter + n) 0

theorem weight_eq (t : Text) : weight t = t.length + 16 * (t.count '*' + (t.count '_' + t.count '\x60')) := rfl

theorem weight_le (t : Text) : weight t ≤ 17 * t.length := by
  have hcount : t.count '*' + (t.count '_' + t.count '\x60') ≤ t.length := by
    induction t with
    | nil => exact Nat.le_refl _
    | cons c t ih =>
      have hone : (if c = '*' then 1 else 0) + ((if c = '_' then 1 else 0) + if c = '\x60' then 1 else 0) ≤ 1 := by grind
      simp only [List.count_cons, List.length_cons, beq_iff_eq]
      omega
  rw [weight_eq]
  omega

variable {t u : Text} {p : Pair}

theorem count_replace_le (h : pair? k t = some p) (j : Emphasis) :
    (p.replace k).count j.delimiter ≤ t.count j.delimiter := by
  obtain ⟨before, inside, after, ht, hr, -⟩ := cut_of_pair? h
  rw [ht, hr]
  simp only [List.count_append, count_startTag, count_endTag, List.count_cons]
  omega

theorem weight_replace_le (h : pair? k t = some p) : weight (p.replace k) ≤ weight t := by
  obtain ⟨before, inside, after, ht, hr, -⟩ := cut_of_pair? h
  have htags : k.startTag.length + k.endTag.length ≤ 33 := by cases k <;> decide
  have hlength : (p.replace k).length + 2 = t.length + (k.startTag.length + k.endTag.length) := by
    rw [ht, hr]
    simp only [List.length_append, List.length_cons]
    omega
  have hfewer := count_replace h
  have hbold := count_replace_le h .bold
  have hitalic := count_replace_le h .italic
  have hliteral := count_replace_le h .literal
  rw [weight_eq, weight_eq]
  cases k <;> simp only [delimiter] at hfewer hbold hitalic hliteral <;> omega

theorem Takes.weight_le {ps : List Taken} (h : Takes t ps u) :
    weight u ≤ weight t ∧ ∀ j : Emphasis, u.count j.delimiter ≤ t.count j.delimiter := by
  induction h with
  | refl => exact ⟨Nat.le_refl _, fun j => Nat.le_refl _⟩
  | pair _ hp ih =>
    exact ⟨Nat.le_trans (weight_replace_le hp) ih.1, fun j => Nat.le_trans (count_replace_le hp j) (ih.2 j)⟩

theorem rewriteTurnWithin_eq (h : weight t < n) : rewriteTurnWithin n k t =
    some (match pair? k t with | some p => .next (p.replace k) | none => .done t) := by
  have hlength : t.length < n := Nat.lt_of_le_of_lt (Nat.le_add_right _ _) h
  rw [rewriteTurnWithin, pairWithin_eq hlength]
  cases pair? k t <;> rfl

theorem markUpKindWithin_eq {rewrites : Nat} (h : weight t < n) (hrewrites : t.count k.delimiter / 2 ≤ rewrites) :
    markUpKindWithin n rewrites k t = some (markUpKind k t) := by
  induction t using markUpKind.induct k generalizing rewrites with
  | case1 t p hp hcount ih =>
    -- The rewrite takes two delimiters away, so one rewrite fewer is enough for what is left.
    obtain ⟨m, rfl⟩ := Nat.exists_eq_succ_of_ne_zero (show rewrites ≠ 0 by omega)
    have hrest : markUpKindWithin n m k (p.replace k) = some (markUpKind k (p.replace k)) :=
      ih (Nat.lt_of_le_of_lt (weight_replace_le hp) h) (by omega)
    rw [markUpKind_of_some hp, ← hrest, markUpKindWithin, Turn.within, rewriteTurnWithin_eq h, hp]
    rfl
  | case2 t hp => rw [markUpKind_of_none hp, markUpKindWithin, Turn.within, rewriteTurnWithin_eq h, hp]

theorem markUpWithin_eq {rewrites : Emphasis → Nat} (h : weight t < n)
    (hrewrites : ∀ k, t.count k.delimiter / 2 ≤ rewrites k) : markUpWithin n rewrites t = some (markUp t) := by
  suffices hall : ∀ (ks : List Emphasis) (u : Text), weight u < n → (∀ k, u.count k.delimiter / 2 ≤ rewrites k) →
      ks.foldlM (fun t k => markUpKindWithin n (rewrites k) k t) u =
        some (ks.foldl (fun t k => markUpKind k t) u) from hall all t h hrewrites
  intro ks
  induction ks with
  | nil => exact fun u _ _ => rfl
  | cons k ks ih =>
    intro u hu hcounts
    obtain ⟨hweight, hcount⟩ := (takes_markUpKind k u).weight_le
    rw [List.foldlM_cons, markUpKindWithin_eq hu (hcounts k), List.foldl_cons]
    refine ih _ (Nat.lt_of_le_of_lt hweight hu) fun j => ?_
    exact Nat.le_trans (Nat.div_le_div_right (hcount j)) (hcounts j)

/-- Marking up the spans of a text stops. The search for a closing delimiter stops at every delimiter of a text,
    and the search for a pair in every text, within one turn more than the text has characters. The rewriting
    of all pairs stops as well, where no search takes more turns than seventeen for each character, and each
    kind at most half as many rewrites as its delimiter has bytes in the text. -/
theorem markUp_stops (t : Text) :
    (∀ (k : Emphasis) (passed ahead : Text), t = passed.reverse ++ k.delimiter :: ahead →
      closerWithin (t.length + 1) k ⟨passed, k.delimiter :: ahead, 0⟩ =
        some (k.closer? ⟨passed, k.delimiter :: ahead, 0⟩)) ∧
    (∀ k, pairWithin (t.length + 1) k t = some (pair? k t)) ∧
    markUpWithin (17 * t.length + 1) (fun k => (Cursor.bytes t).count (Cursor.leadByte k.delimiter) / 2) t =
      some (markUp t) := by
  refine ⟨?_, fun k => pairWithin_eq (Nat.lt_succ_self _), ?_⟩
  · rintro k passed ahead rfl
    refine closerWithin_eq ⟨rfl, ?_⟩ (by simp [Cursor.isAt, Cursor.char?])
    simp only [List.length_append, List.length_cons]
    omega
  · refine markUpWithin_eq (Nat.lt_succ_of_le (weight_le t)) fun k => ?_
    rw [Cursor.count_bytes k.isAscii_delimiter]

end Emphasis
end Inline
end WikiArticle
