import WikiArticle.Text.Cursor.Order

/-! What a cursor finds when it seeks. An ASCII character is known by its first byte, so seeking the bytes
    of such characters finds the characters themselves: the cursor passes the characters before the first
    of them, and stands there or at the end. -/

namespace WikiArticle
namespace Cursor

/-! ### First bytes -/

theorem leadByte_toNat (c : Char) : (leadByte c).toNat = if c.toNat ≤ 0x7F then c.toNat
    else if c.toNat ≤ 0x7FF then c.toNat / 64 % 32 + 0xC0
    else if c.toNat ≤ 0xFFFF then c.toNat / 4096 % 16 + 0xE0 else c.toNat / 262144 % 8 + 0xF0 := by
  unfold leadByte
  split
  · exact Nat.mod_eq_of_lt (by omega)
  split
  · exact Nat.mod_eq_of_lt (by omega)
  split
  · exact Nat.mod_eq_of_lt (by omega)
  · exact Nat.mod_eq_of_lt (by omega)

theorem leadByte_eq_iff {a : Char} (ha : a.toNat ≤ 0x7F) {c : Char} : leadByte c = leadByte a ↔ c = a := by
  constructor
  · intro h
    have hn := congrArg UInt8.toNat h
    rw [leadByte_toNat, leadByte_toNat, if_pos ha] at hn
    apply Char.toNat_inj.mp
    split at hn
    · exact hn
    split at hn
    · omega
    split at hn <;> omega
  · rintro rfl
    rfl

/-! ### Seeking -/

theorem seek_append {p : UInt8 → Bool} {w : Text} (h : ∀ a ∈ w, p (leadByte a) = false) (passed ahead : Text) :
    seek p passed (w ++ ahead) = seek p (w.reverse ++ passed) ahead := by
  induction w generalizing passed with
  | nil => rfl
  | cons a w ih =>
    simp only [List.mem_cons, forall_eq_or_imp] at h
    simp [seek, h.1, ih h.2]

theorem seek_of_found {p : UInt8 → Bool} {w : Text} (h : ∀ a ∈ w, p (leadByte a) = false) {b : Char}
    (hb : p (leadByte b) = true) (passed rest : Text) :
    seek p passed (w ++ b :: rest) = ⟨w.reverse ++ passed, b :: rest, 0⟩ := by
  simp [seek_append h, seek, hb]

theorem seek_of_none {p : UInt8 → Bool} {w : Text} (h : ∀ a ∈ w, p (leadByte a) = false) (passed : Text) :
    seek p passed w = ⟨w.reverse ++ passed, [], 0⟩ := by
  simpa [seek] using seek_append h passed []

end Cursor
end WikiArticle
