import WikiArticle.Proofs.Text.Seek
import WikiArticle.Text.Turn

/-! Loops that are given a number of turns. A loop whose state gets smaller in every turn stops within as many
    turns as its state is large, and with the answer that it runs to. A turn can hold loops itself; if one of
    these does not stop, the turn has no outcome, and neither has the loop. -/

namespace WikiArticle

namespace Turn
variable {σ α : Type}

/-- The answer of the loop that starts in `s`, if it stops within `n` turns. -/
def within (turn : σ → Option (Turn σ α)) : Nat → σ → Option α
  | 0, _ => none
  | n + 1, s =>
    match turn s with
    | some (.next t) => within turn n t
    | some (.done a) => some a
    | none => none

/-- A loop that takes the turns of another one, from states in which its inner loops stop, stops with the answer
    of that loop, within one turn more than the state is large. -/
theorem within_eq_run {turn : σ → Turn σ α} {size : σ → Nat} {falls : ∀ s t, turn s = .next t → size t < size s}
    {body : σ → Option (Turn σ α)} (inv : σ → Prop) (hbody : ∀ s, inv s → body s = some (turn s))
    (hkeeps : ∀ s t, inv s → turn s = .next t → inv t) {n : Nat} {s : σ} (hs : inv s) (hn : size s < n) :
    within body n s = some (run turn size falls s) := by
  induction n generalizing s with
  | zero => exact absurd hn (Nat.not_lt_zero _)
  | succ n ih =>
    rw [within, hbody s hs]
    cases h : turn s with
    | next t =>
      have hfalls := falls s t h
      rw [run_of_next h]
      exact ih (hkeeps s t hs h) (by omega)
    | done a => rw [run_of_done h]

end Turn

namespace Cursor

/-! ### Looking for a byte -/

/-- The place behind the next character. A cursor that sees no character stays where it is. -/
def bump (c : Cursor) : Cursor := (c.next?.map Prod.snd).getD c

/-- One turn of looking for a byte: over a character, unless the byte or the end is there. -/
def seekTurn (p : UInt8 → Bool) (c : Cursor) : Turn Cursor Cursor :=
  match c.byte? with
  | none => .done c
  | some b => if p b then .done c else .next c.bump

/-- The first place from here on with a byte in `p`, or the end, if it is found within `n` turns. -/
def skipUntilWithin (n : Nat) (p : UInt8 → Bool) (c : Cursor) : Option Cursor :=
  Turn.within (fun c => some (seekTurn p c)) n c

theorem byte?_eq {c : Cursor} (h : c.offset = 0) : c.byte? = c.ahead.head?.map leadByte := by
  rw [byte?, h]
  cases c.ahead with
  | nil => rfl
  | cons a rest => exact List.head?_eq_getElem?.symm.trans (head?_utf8EncodeChar a)

theorem byte?_eq_iff {c : Cursor} (h : c.offset = 0) {a : Char} (ha : a.toNat ≤ 0x7F) :
    c.byte? = some (leadByte a) ↔ c.isAt a = true := by
  rw [byte?_eq h, isAt_iff]
  cases c.ahead with
  | nil => simp
  | cons b rest => simp [h, leadByte_eq_iff ha]

theorem skipUntilWithin_eq {p : UInt8 → Bool} {c : Cursor} {n : Nat} (h : c.offset = 0) (hn : c.ahead.length < n) :
    c.skipUntilWithin n p = some (c.skipUntil p) := by
  obtain ⟨passed, ahead, offset⟩ := c
  simp only at h hn
  subst h
  rw [skipUntil, if_pos rfl, skipUntilWithin]
  induction ahead generalizing passed n with
  | nil =>
    obtain ⟨n, rfl⟩ := Nat.exists_eq_succ_of_ne_zero (Nat.ne_of_gt hn)
    rfl
  | cons a rest ih =>
    obtain ⟨n, rfl⟩ := Nat.exists_eq_succ_of_ne_zero (Nat.ne_of_gt (Nat.zero_lt_of_lt hn))
    have hbyte : byte? ⟨passed, a :: rest, 0⟩ = some (leadByte a) := byte?_eq rfl
    rw [Turn.within, seekTurn, hbyte, seek]
    by_cases hp : p (leadByte a) = true
    · simp only [if_pos hp]
    · simp only [if_neg hp]
      exact ih (a :: passed) (Nat.lt_of_succ_lt_succ hn)

/-! ### Counting bytes -/

theorem le_of_mem_tail {c : Char} {b : UInt8} (h : b ∈ (String.utf8EncodeChar c).tail) : 0x80 ≤ b.toNat := by
  have hlater (n : Nat) : 0x80 ≤ (UInt8.ofNat (n % 0x40 + 0x80)).toNat := by
    rw [UInt8.toNat_ofNat']
    omega
  unfold String.utf8EncodeChar at h
  dsimp only at h
  split at h
  · cases h
  split at h
  · simp only [List.tail_cons, List.mem_singleton] at h
    exact h ▸ hlater _
  split at h
  · simp only [List.tail_cons, List.mem_cons, List.not_mem_nil, or_false] at h
    rcases h with rfl | rfl <;> exact hlater _
  · simp only [List.tail_cons, List.mem_cons, List.not_mem_nil, or_false] at h
    rcases h with rfl | rfl | rfl <;> exact hlater _

theorem count_utf8EncodeChar {a : Char} (ha : a.toNat ≤ 0x7F) (c : Char) :
    (String.utf8EncodeChar c).count (leadByte a) = if c = a then 1 else 0 := by
  obtain ⟨later, hlater⟩ := List.head?_eq_some_iff.mp (head?_utf8EncodeChar c)
  have hcons : String.utf8EncodeChar c = leadByte c :: (String.utf8EncodeChar c).tail := by rw [hlater, List.tail_cons]
  have htail : leadByte a ∉ (String.utf8EncodeChar c).tail := fun h => by
    have hle := le_of_mem_tail h
    rw [leadByte_toNat, if_pos ha] at hle
    omega
  rw [hcons, List.count_cons, List.count_eq_zero_of_not_mem htail, Nat.zero_add]
  simp [leadByte_eq_iff ha]

/-- An ASCII character has as many occurrences in a text as its byte has in the bytes of the text. -/
theorem count_bytes {a : Char} (ha : a.toNat ≤ 0x7F) (t : Text) : (bytes t).count (leadByte a) = t.count a := by
  induction t with
  | nil => rfl
  | cons c t ih =>
    have hcons : bytes (c :: t) = String.utf8EncodeChar c ++ bytes t := rfl
    rw [hcons, List.count_append, count_utf8EncodeChar ha, ih, List.count_cons]
    by_cases h : c = a
    · simp [h, Nat.add_comm]
    · simp [h]

end Cursor
end WikiArticle
