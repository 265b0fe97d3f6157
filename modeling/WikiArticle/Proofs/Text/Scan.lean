import WikiArticle.Proofs.Text.Position

/-! When looking for a byte comes to an end. The loop looks at single bytes but steps over whole characters, and
    a place inside a character is no place to step from: there the loop stays for ever, unless the byte that is
    looked for is right there. From a place between characters it always ends, at another such place. -/

namespace WikiArticle

namespace Turn
variable {σ α : Type} {turn : σ → Option (Turn σ α)}

/-- A loop that a turn leads back to the same state does not stop. -/
theorem within_of_fixed {s : σ} (h : turn s = some (.next s)) (n : Nat) : within turn n s = none := by
  induction n with
  | zero => rfl
  | succ n ih =>
    rw [within, h]
    exact ih

/-- More turns than enough give the same answer. -/
theorem within_mono {m n : Nat} (hmn : m ≤ n) {s : σ} {a : α} (h : within turn m s = some a) :
    within turn n s = some a := by
  induction m generalizing n s with
  | zero => cases h
  | succ m ih =>
    obtain ⟨n, rfl⟩ := Nat.exists_eq_succ_of_ne_zero (Nat.ne_of_gt (Nat.lt_of_lt_of_le m.succ_pos hmn))
    rw [within] at h ⊢
    split at h
    · exact ih (Nat.le_of_succ_le_succ hmn) h
    · exact h
    · cases h

theorem within_unique {m n : Nat} {s : σ} {a b : α} (ha : within turn m s = some a) (hb : within turn n s = some b) :
    a = b := by
  have ha := within_mono (Nat.le_max_left m n) ha
  rw [within_mono (Nat.le_max_right m n) hb] at ha
  exact (Option.some.inj ha).symm

end Turn

namespace Cursor
variable {t : Text} {c d : Cursor} {p : UInt8 → Bool}

/-! ### One step -/

theorem bump_of_inside (h : c.offset ≠ 0) : c.bump = c := by
  obtain ⟨passed, ahead, offset⟩ := c
  obtain ⟨k, rfl⟩ := Nat.exists_eq_succ_of_ne_zero h
  cases ahead <;> rfl

theorem StandsIn.bump (h : StandsIn t c) : StandsIn t c.bump := by
  cases hn : c.next? with
  | none =>
    rw [Cursor.bump, hn]
    exact h
  | some q =>
    obtain ⟨a, d⟩ := q
    obtain ⟨rest, -, -, rfl⟩ := next?_eq_some.mp hn
    rw [Cursor.bump, hn]
    exact ⟨(spans_of_next? hn).text.trans h.text, rfl⟩

theorem StandsIn.byte? (h : StandsIn t c) : c.byte? = (bytes t)[c.pos]? := by
  conv => lhs; rw [h.eq_atByte]
  exact byte?_atByte t c.pos

theorem ascii_of_leadByte {a : Char} (h : (leadByte a).toNat ≤ 0x7F) : a.utf8Size = 1 := by
  have ha : a.toNat ≤ 0x7F := by
    rw [leadByte_toNat] at h
    split at h
    · assumption
    split at h
    · omega
    split at h <;> omega
  exact Char.utf8Size_eq_one_iff.mpr ha

/-- A byte of ASCII is a character, so a skip over such bytes ends between two characters. -/
theorem StandsIn.skip {n : Nat} (h : StandsIn t c)
    (hn : ∀ k < n, ∃ b, (bytes t)[c.pos + k]? = some b ∧ b.toNat ≤ 0x7F) : StandsIn t (c.skip n) := by
  induction n generalizing c with
  | zero =>
    rw [Cursor.skip, h.offset, settle_zero, ← h.offset]
    exact h
  | succ n ih =>
    obtain ⟨b, hb, hascii⟩ := hn 0 (Nat.zero_lt_succ n)
    rw [Nat.add_zero, ← h.byte?, byte?_eq h.offset] at hb
    obtain ⟨a, hhead, rfl⟩ := Option.map_eq_some_iff.mp hb
    obtain ⟨rest, hahead⟩ := List.head?_eq_some_iff.mp hhead
    -- The byte ahead is a whole character, so the place one byte on is again between characters.
    have hone := skip_one (isAt_iff.mpr ⟨h.offset, rest, hahead⟩) (ascii_of_leadByte hascii)
    have hskip : c.skip (n + 1) = (c.skip 1).skip n := by
      rw [hone, Cursor.skip, hahead, h.offset, settle, ascii_of_leadByte hascii, if_pos (by omega)]
      simp [Cursor.skip]
    have hstands : StandsIn t (c.skip 1) := ⟨(precedes_skip 1 c).text.trans h.text, by rw [hone]⟩
    have hpos : (c.skip 1).pos = c.pos + 1 := by
      simp [hone, pos, h.offset, ascii_of_leadByte hascii]
    rw [hskip]
    refine ih hstands fun k hk => ?_
    rw [hpos, Nat.add_assoc, Nat.add_comm 1 k]
    exact hn (k + 1) (Nat.succ_lt_succ hk)

/-! ### The loop -/

theorem skipUntilWithin_one (h : c.byte? = none ∨ ∃ b, c.byte? = some b ∧ p b = true) :
    c.skipUntilWithin 1 p = some c := by
  have hturn : seekTurn p c = .done c := by
    rcases h with hnone | ⟨b, hbyte, hp⟩
    · rw [seekTurn, hnone]
    · rw [seekTurn, hbyte]
      exact if_pos hp
  rw [skipUntilWithin, Turn.within, hturn]

theorem skipUntilWithin_inside (hoffset : c.offset ≠ 0) {b : UInt8} (hbyte : c.byte? = some b) (hp : ¬p b = true)
    (n : Nat) : c.skipUntilWithin n p = none := by
  -- The turn is over a character, and there is none to step over.
  have hturn : seekTurn p c = .next c := by
    rw [seekTurn, hbyte, bump_of_inside hoffset]
    exact if_neg hp
  exact Turn.within_of_fixed (congrArg some hturn) n

/-- The loop ends at a place between characters, or where it need not go on. -/
theorem skipUntilWithin_ends_iff : (∃ n d, c.skipUntilWithin n p = some d) ↔
    c.offset = 0 ∨ c.byte? = none ∨ ∃ b, c.byte? = some b ∧ p b = true := by
  constructor
  · rintro ⟨n, d, hend⟩
    refine Classical.or_iff_not_imp_left.mpr fun hoffset => ?_
    cases hbyte : c.byte? with
    | none => exact Or.inl rfl
    | some b =>
      refine Or.inr ⟨b, rfl, Classical.byContradiction fun hp => ?_⟩
      rw [skipUntilWithin_inside hoffset hbyte hp n] at hend
      cases hend
  · rintro (hoffset | hthere)
    · exact ⟨_, _, skipUntilWithin_eq hoffset (Nat.lt_succ_self _)⟩
    · exact ⟨1, c, skipUntilWithin_one hthere⟩

theorem eq_of_skipUntilWithin {n : Nat} (h : c.skipUntilWithin n p = some d) : d = c.skipUntil p := by
  by_cases hoffset : c.offset = 0
  · exact Turn.within_unique h (skipUntilWithin_eq hoffset (Nat.lt_succ_self _))
  · have hthere := (skipUntilWithin_ends_iff.mp ⟨n, d, h⟩).resolve_left hoffset
    rw [skipUntil, if_neg hoffset]
    exact Turn.within_unique h (skipUntilWithin_one hthere)

/-! ### What is found -/

theorem exists_seek (p : UInt8 → Bool) (passed ahead : Text) : ∃ w rest, ahead = w ++ rest ∧
    (∀ a ∈ w, p (leadByte a) = false) ∧ (∀ a ∈ rest.head?, p (leadByte a) = true) ∧
    seek p passed ahead = ⟨w.reverse ++ passed, rest, 0⟩ := by
  induction ahead generalizing passed with
  | nil => exact ⟨[], [], rfl, by simp, by simp, rfl⟩
  | cons a rest ih =>
    rw [seek]
    by_cases hp : p (leadByte a) = true
    · rw [if_pos hp]
      exact ⟨[], a :: rest, rfl, by simp, by simpa using hp, rfl⟩
    · rw [if_neg hp]
      obtain ⟨w, rest', hrest, hw, hhead, hseek⟩ := ih (a :: passed)
      refine ⟨a :: w, rest', by rw [hrest]; rfl, List.forall_mem_cons.mpr ⟨by simpa using hp, hw⟩, hhead, ?_⟩
      rw [hseek]
      simp

theorem StandsIn.skipUntil (h : StandsIn t c) (p : UInt8 → Bool) : StandsIn t (c.skipUntil p) := by
  refine ⟨(precedes_skipUntil p c).text.trans h.text, ?_⟩
  obtain ⟨w, rest, -, -, -, hseek⟩ := exists_seek p c.passed c.ahead
  rw [Cursor.skipUntil, if_pos h.offset, hseek]

/-- The places of a text that its start leads to over single characters, to bytes that are looked for, and over
    bytes of ASCII. -/
inductive Reached (t : Text) : Cursor → Prop
  | start : Reached t (.start t)
  | bump {c : Cursor} : Reached t c → Reached t c.bump
  | found {c d : Cursor} {n : Nat} (p : UInt8 → Bool) : Reached t c → c.skipUntilWithin n p = some d → Reached t d
  | skip {c : Cursor} {n : Nat} : Reached t c →
      (∀ k < n, ∃ b, (bytes t)[c.pos + k]? = some b ∧ b.toNat ≤ 0x7F) → Reached t (c.skip n)

theorem standsIn_of_reached (h : Reached t c) : StandsIn t c := by
  induction h with
  | start => exact .start t
  | bump _ ih => exact ih.bump
  | found p _ hfound ih =>
    rw [eq_of_skipUntilWithin hfound]
    exact ih.skipUntil p
  | skip _ hascii ih => exact ih.skip hascii

/-- Looking for a byte from an index ends just if the index lies between characters, at the end or beyond it, or
    has the byte. From between characters it leads over the characters without the byte at their front, to the
    first one with it, or to the end, and this is again an index between characters. It ends wherever steps over
    characters, earlier searches and skips over bytes of ASCII lead to. -/
theorem skipUntil_progress (t : Text) (i : Nat) (p : UInt8 → Bool) :
    let c := atByte t i
    (c.text = t ∧ c.pos = i ∧ c.byte? = (bytes t)[i]?) ∧
    ((∃ n d, c.skipUntilWithin n p = some d) ↔
      IsBoundary t i ∨ (bytes t).length ≤ i ∨ ∃ b, (bytes t)[i]? = some b ∧ p b = true) ∧
    (∀ n d, c.skipUntilWithin n p = some d → d = c.skipUntil p) ∧
    (IsBoundary t i → ∃ u w v, t = u ++ w ++ v ∧ (bytes u).length = i ∧
      c.skipUntil p = atByte t (bytes (u ++ w)).length ∧ IsBoundary t (bytes (u ++ w)).length ∧
      (∀ a ∈ w, p (leadByte a) = false) ∧ ∀ a ∈ v.head?, p (leadByte a) = true) ∧
    ∀ d, Reached t d → ∃ n e, d.skipUntilWithin n p = some e := by
  intro c
  refine ⟨⟨text_atByte t i, pos_atByte t i, byte?_atByte t i⟩, ?_, fun n d => eq_of_skipUntilWithin, ?_,
    fun d hd => ?_⟩
  · rw [skipUntilWithin_ends_iff, ← isBoundary_iff, byte?_atByte, List.getElem?_eq_none_iff]
  · rintro ⟨u, rest, rfl, rfl⟩
    obtain ⟨w, v, rfl, hw, hv, hseek⟩ := exists_seek p u.reverse rest
    have hsplit : u ++ (w ++ v) = u ++ w ++ v := (List.append_assoc u w v).symm
    refine ⟨u, w, v, hsplit, rfl, ?_, ⟨u ++ w, v, hsplit, rfl⟩, hw, hv⟩
    have hfound : atByte (u ++ (w ++ v)) (bytes (u ++ w)).length = ⟨(u ++ w).reverse, v, 0⟩ := by
      rw [hsplit, atByte_append]
    rw [hfound, List.reverse_append, ← hseek]
    simp only [c, atByte_append, skipUntil, if_true]
  · exact skipUntilWithin_ends_iff.mpr (Or.inl (standsIn_of_reached hd).offset)

/-- Inside a character of two bytes the search does not end, and at the second of them it does if that is what it
    looks for. -/
example : (atByte "ы*".toList 1).skipUntilWithin 9 (· == leadByte '*') = none ∧
    (atByte "ы*".toList 1).skipUntilWithin 9 (· == 0x8B) = some (atByte "ы*".toList 1) := by decide

end Cursor
end WikiArticle
