import WikiArticle.Proofs.Text.Budget

/-! Indices of a text, counted in bytes. Every index has a place in the text: between two characters, inside a
    character, or beyond the end. A slice between two indices is there only if they are in order and neither lies
    inside a character or beyond the end, and it is then what the text has between them. -/

namespace WikiArticle
namespace Cursor

/-! ### Lengths in bytes -/

@[simp] theorem bytes_nil : bytes [] = [] := rfl

@[simp] theorem bytes_append (t u : Text) : bytes (t ++ u) = bytes t ++ bytes u := List.flatMap_append

theorem bytes_cons (a : Char) (t : Text) : bytes (a :: t) = String.utf8EncodeChar a ++ bytes t := rfl

@[simp] theorem length_bytes_cons (a : Char) (t : Text) : (bytes (a :: t)).length = a.utf8Size + (bytes t).length := by
  rw [bytes_cons, List.length_append, String.length_utf8EncodeChar]

theorem length_bytes_pos {t : Text} (h : t ≠ []) : 0 < (bytes t).length :=
  Nat.lt_of_lt_of_le (List.length_pos_iff.mpr h) (length_le_length_bytes t)

/-! ### The place of an index -/

/-- The index lies between two characters, or at one end of the text. -/
def IsBoundary (t : Text) (i : Nat) : Prop := ∃ u v, t = u ++ v ∧ (bytes u).length = i

theorem IsBoundary.le {t : Text} {i : Nat} : IsBoundary t i → i ≤ (bytes t).length
  | ⟨u, v, ht, hu⟩ => by simp [ht, hu]

/-- The place of an index. -/
def atByte (t : Text) (i : Nat) : Cursor := (start t).skip i

theorem exists_settle (passed ahead : Text) (n : Nat) : ∃ w rest k, ahead = w ++ rest ∧ (bytes w).length + k = n ∧
    (∀ a ∈ rest.head?, k < a.utf8Size) ∧ settle passed ahead n = ⟨w.reverse ++ passed, rest, k⟩ := by
  induction ahead generalizing passed n with
  | nil => exact ⟨[], [], n, rfl, Nat.zero_add n, by simp, rfl⟩
  | cons a rest ih =>
    rw [settle]
    split
    · obtain ⟨w, rest', k, hrest, hn, hk, hsettle⟩ := ih (a :: passed) (n - a.utf8Size)
      refine ⟨a :: w, rest', k, by rw [hrest]; rfl, ?_, hk, by simp [hsettle]⟩
      rw [length_bytes_cons]
      omega
    · refine ⟨[], a :: rest, n, rfl, Nat.zero_add n, ?_, rfl⟩
      simp only [List.head?_cons, Option.mem_some_iff, forall_eq']
      omega

theorem settle_zero (passed ahead : Text) : settle passed ahead 0 = ⟨passed, ahead, 0⟩ := by
  cases ahead with
  | nil => rfl
  | cons a rest => rw [settle, if_neg (Nat.not_le_of_gt a.utf8Size_pos)]

theorem settle_append (passed w rest : Text) :
    settle passed (w ++ rest) (bytes w).length = ⟨w.reverse ++ passed, rest, 0⟩ := by
  induction w generalizing passed with
  | nil => exact settle_zero passed rest
  | cons a w ih =>
    rw [length_bytes_cons, List.cons_append, settle, if_pos (Nat.le_add_right ..), Nat.add_sub_cancel_left, ih]
    simp

/-- An index lies as far behind some characters of the text as the character ahead is long, if one is. -/
theorem exists_atByte (t : Text) (i : Nat) : ∃ u v k, t = u ++ v ∧ (bytes u).length + k = i ∧
    (∀ a ∈ v.head?, k < a.utf8Size) ∧ atByte t i = ⟨u.reverse, v, k⟩ := by
  obtain ⟨u, v, k, ht, hi, hk, hsettle⟩ := exists_settle [] t i
  refine ⟨u, v, k, ht, hi, hk, ?_⟩
  rw [atByte, skip, start, Nat.zero_add, hsettle, List.append_nil]

theorem atByte_append (u v : Text) : atByte (u ++ v) (bytes u).length = ⟨u.reverse, v, 0⟩ := by
  rw [atByte, skip, start, Nat.zero_add, settle_append, List.append_nil]

@[simp] theorem text_atByte (t : Text) (i : Nat) : (atByte t i).text = t := (precedes_skip i (start t)).text

@[simp] theorem pos_atByte (t : Text) (i : Nat) : (atByte t i).pos = i := by
  obtain ⟨u, v, k, -, hi, -, h⟩ := exists_atByte t i
  rw [h, pos, List.reverse_reverse, hi]

theorem byte?_atByte (t : Text) (i : Nat) : (atByte t i).byte? = (bytes t)[i]? := by
  obtain ⟨u, v, k, rfl, rfl, hk, h⟩ := exists_atByte t i
  rw [h, bytes_append, List.getElem?_append_right (Nat.le_add_right ..), Nat.add_sub_cancel_left]
  cases v with
  | nil => rfl
  | cons a v =>
    have hlt : k < (String.utf8EncodeChar a).length := by
      rw [String.length_utf8EncodeChar]
      exact hk a rfl
    rw [bytes_cons, List.getElem?_append_left hlt]
    rfl

theorem isBoundary_iff {t : Text} {i : Nat} : IsBoundary t i ↔ (atByte t i).offset = 0 := by
  constructor
  · rintro ⟨u, v, rfl, rfl⟩
    rw [atByte_append]
  · intro h
    obtain ⟨u, v, k, ht, hi, -, hat⟩ := exists_atByte t i
    rw [hat] at h
    obtain rfl : k = 0 := h
    exact ⟨u, v, ht, hi⟩

/-! ### Places between characters -/

/-- The cursor stands in the text, between two characters or at an end. -/
structure StandsIn (t : Text) (c : Cursor) : Prop where
  text : c.text = t
  offset : c.offset = 0

namespace StandsIn
variable {t : Text} {c d : Cursor}

theorem start (t : Text) : StandsIn t (Cursor.start t) := ⟨rfl, rfl⟩

theorem eq_atByte (h : StandsIn t c) : c = atByte t c.pos := by
  obtain ⟨passed, ahead, offset⟩ := c
  obtain ⟨rfl, rfl⟩ := h
  have hat := atByte_append passed.reverse ahead
  rw [List.reverse_reverse] at hat
  exact hat.symm

theorem isBoundary (h : StandsIn t c) : IsBoundary t c.pos := by
  rw [isBoundary_iff, ← h.eq_atByte]
  exact h.offset

theorem pos_of_spans {w : Text} (hc : StandsIn t c) (hd : StandsIn t d) (h : Spans c w d) :
    d.pos = c.pos + (bytes w).length := by
  rw [pos, pos, hc.offset, hd.offset, h.1]
  simp

theorem atEnd (h : StandsIn t c) (hc : c.ahead = []) : c.pos = (bytes t).length := by
  rw [← h.text, pos, h.offset, Cursor.text, hc, List.append_nil, Nat.add_zero]

end StandsIn

/-! ### Slices -/

/-- What the text has between two indices, if they are in order and lie between characters. -/
def slice? (t : Text) (i j : Nat) : Option Text :=
  if i ≤ j ∧ (atByte t i).offset = 0 ∧ (atByte t j).offset = 0 then some ((atByte t i).upTo (atByte t j)) else none

/-- A slice is there just if its indices are in order, not beyond the end, and not inside a character. -/
theorem isSome_slice?_iff {t : Text} {i j : Nat} :
    (slice? t i j).isSome = true ↔ i ≤ j ∧ j ≤ (bytes t).length ∧ IsBoundary t i ∧ IsBoundary t j := by
  simp only [isBoundary_iff]
  rw [slice?, Option.isSome_ite]
  constructor
  · exact fun ⟨hij, hi, hj⟩ => ⟨hij, (isBoundary_iff.mpr hj).le, hi, hj⟩
  · exact fun ⟨hij, _, hi, hj⟩ => ⟨hij, hi, hj⟩

theorem slice?_of_spans {t w : Text} {c d : Cursor} (hc : StandsIn t c) (hd : StandsIn t d) (h : Spans c w d) :
    slice? t c.pos d.pos = some w := by
  have hle : c.pos ≤ d.pos := by
    rw [hc.pos_of_spans hd h]
    exact Nat.le_add_right ..
  rw [slice?, ← hc.eq_atByte, ← hd.eq_atByte, if_pos ⟨hle, hc.offset, hd.offset⟩, h.upTo]

end Cursor
end WikiArticle
