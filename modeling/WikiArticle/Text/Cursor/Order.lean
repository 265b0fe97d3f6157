import WikiArticle.Text.Cursor

/-! The order of the places in one text. A place precedes another when some characters of the text lie
    between them. Every move of a cursor leads to a place that its start precedes, so a move keeps the
    text, and the two places cut it in three. -/

namespace WikiArticle
namespace Cursor

/-- `d` is a place of the same text as `c`, and the characters `w` lie between them. -/
def Spans (c : Cursor) (w : Text) (d : Cursor) : Prop :=
  d.passed = w.reverse ++ c.passed ∧ c.ahead = w ++ d.ahead

/-- `d` is a place of the same text as `c`, not before it. -/
def Precedes (c d : Cursor) : Prop := ∃ w, Spans c w d

/-! ### What the order says -/

theorem Spans.text {c d : Cursor} {w : Text} (h : Spans c w d) : d.text = c.text := by
  simp [Cursor.text, h.1, h.2]

theorem Spans.upTo {c d : Cursor} {w : Text} (h : Spans c w d) : c.upTo d = w := by
  simp [Cursor.upTo, h.1]

theorem Spans.refl (c : Cursor) : Spans c [] c := ⟨rfl, rfl⟩

theorem Spans.trans {c d e : Cursor} {v w : Text} (h : Spans c v d) (k : Spans d w e) : Spans c (v ++ w) e :=
  ⟨by simp [k.1, h.1], by simp [h.2, k.2]⟩

theorem Precedes.refl (c : Cursor) : Precedes c c := ⟨[], Spans.refl c⟩

theorem Precedes.trans {c d e : Cursor} : Precedes c d → Precedes d e → Precedes c e
  | ⟨_, h⟩, ⟨_, k⟩ => ⟨_, h.trans k⟩

theorem Precedes.text {c d : Cursor} : Precedes c d → d.text = c.text
  | ⟨_, h⟩ => h.text

theorem Precedes.length_ahead_le {c d : Cursor} : Precedes c d → d.ahead.length ≤ c.ahead.length
  | ⟨_, h⟩ => by simp [h.2]

/-! ### One character -/

theorem isAt_iff {c : Cursor} {a : Char} : c.isAt a = true ↔ c.offset = 0 ∧ ∃ rest, c.ahead = a :: rest := by
  obtain ⟨passed, ahead, offset⟩ := c
  cases ahead <;> simp [isAt, char?, beq_iff_eq, and_comm]

theorem next?_eq_some {c d : Cursor} {a : Char} :
    c.next? = some (a, d) ↔ ∃ rest, c.offset = 0 ∧ c.ahead = a :: rest ∧ d = ⟨a :: c.passed, rest, 0⟩ := by
  obtain ⟨passed, ahead, offset⟩ := c
  cases ahead with
  | nil => simp [next?]
  | cons b rest =>
    cases offset with
    | zero => simp [next?]; grind
    | succ n => simp [next?]

theorem spans_of_next? {c d : Cursor} {a : Char} (h : c.next? = some (a, d)) : Spans c [a] d := by
  obtain ⟨rest, -, hc, rfl⟩ := next?_eq_some.mp h
  exact ⟨rfl, hc⟩

theorem length_ahead_of_next? {c d : Cursor} {a : Char} (h : c.next? = some (a, d)) :
    d.ahead.length < c.ahead.length := by
  simp [(spans_of_next? h).2]

/-! ### Many characters -/

theorem precedes_settle (passed ahead : Text) (k n : Nat) : Precedes ⟨passed, ahead, k⟩ (settle passed ahead n) := by
  induction ahead generalizing passed n k with
  | nil => exact ⟨[], rfl, rfl⟩
  | cons a rest ih =>
    rw [settle]
    split
    · exact Precedes.trans (d := ⟨a :: passed, rest, 0⟩) ⟨[a], rfl, rfl⟩ (ih ..)
    · exact ⟨[], rfl, rfl⟩

theorem precedes_skip (n : Nat) (c : Cursor) : Precedes c (c.skip n) := precedes_settle ..

theorem precedes_seek (p : UInt8 → Bool) (passed ahead : Text) (k : Nat) :
    Precedes ⟨passed, ahead, k⟩ (seek p passed ahead) := by
  induction ahead generalizing passed k with
  | nil => exact ⟨[], rfl, rfl⟩
  | cons a rest ih =>
    rw [seek]
    split
    · exact ⟨[], rfl, rfl⟩
    · exact Precedes.trans (d := ⟨a :: passed, rest, 0⟩) ⟨[a], rfl, rfl⟩ (ih ..)

theorem precedes_skipUntil (p : UInt8 → Bool) (c : Cursor) : Precedes c (c.skipUntil p) := by
  rw [skipUntil]
  split
  · exact precedes_seek ..
  · exact Precedes.refl c

theorem skip_one {c : Cursor} {a : Char} (h : c.isAt a = true) (ha : a.utf8Size = 1) :
    c.skip 1 = ⟨a :: c.passed, c.ahead.tail, 0⟩ := by
  obtain ⟨passed, ahead, offset⟩ := c
  obtain ⟨rfl, rest, rfl⟩ := isAt_iff.mp h
  cases rest with
  | nil => simp [skip, settle, ha]
  | cons b rest =>
    have hb : b.utf8Size ≠ 0 := Nat.ne_of_gt b.utf8Size_pos
    simp [skip, settle, ha, hb]

theorem spans_skip_one {c : Cursor} {a : Char} (h : c.isAt a = true) (ha : a.utf8Size = 1) :
    Spans c [a] (c.skip 1) := by
  obtain ⟨-, rest, hc⟩ := isAt_iff.mp h
  rw [skip_one h ha]
  exact ⟨rfl, by simp [hc]⟩

end Cursor
end WikiArticle
