import WikiArticle.Text.Blank

/-! A place in a text, counted in bytes of its UTF-8 form. A cursor holds the characters it has passed,
    nearest first, and those ahead of it; its place is past the former by `offset` bytes. A cursor with
    offset zero stands between two characters. Any other stands inside the first character ahead, or
    beyond the end of the text: there it can still be asked for a byte, but it sees no character and
    does not step. -/

namespace WikiArticle

/-- A place in a text. -/
structure Cursor where
  /-- The characters before the place, the nearest first. -/
  passed : Text
  /-- The characters not yet passed. -/
  ahead : Text
  /-- The bytes between the last character passed and the place. -/
  offset : Nat
  deriving DecidableEq, Repr

namespace Cursor

/-- The bytes of a text in UTF-8. -/
def bytes (t : Text) : List UInt8 := t.flatMap String.utf8EncodeChar

/-- The first byte of a character in UTF-8. -/
def leadByte (c : Char) : UInt8 :=
  if c.toNat ≤ 0x7F then .ofNat c.toNat
  else if c.toNat ≤ 0x7FF then .ofNat (c.toNat / 64 % 32 + 0xC0)
  else if c.toNat ≤ 0xFFFF then .ofNat (c.toNat / 4096 % 16 + 0xE0)
  else .ofNat (c.toNat / 262144 % 8 + 0xF0)

theorem head?_utf8EncodeChar (c : Char) : (String.utf8EncodeChar c).head? = some (leadByte c) := by
  simp only [String.utf8EncodeChar, leadByte, Char.toNat]
  repeat' split
  all_goals rfl

/-! ### Looking -/

/-- The start of a text. -/
def start (t : Text) : Cursor := ⟨[], t, 0⟩

/-- The text the cursor stands in. -/
def text (c : Cursor) : Text := c.passed.reverse ++ c.ahead

/-- The number of bytes before the cursor. -/
def pos (c : Cursor) : Nat := (bytes c.passed.reverse).length + c.offset

/-- Whether nothing is ahead. -/
def atEnd (c : Cursor) : Bool := c.ahead.isEmpty

/-- The byte at the cursor. -/
def byte? (c : Cursor) : Option UInt8 := c.ahead.head?.bind fun a => (String.utf8EncodeChar a)[c.offset]?

/-- The character that begins at the cursor. -/
@[inline]
def char? (c : Cursor) : Option Char := if c.offset = 0 then c.ahead.head? else none

/-- The character that ends at the cursor. -/
def prev? (c : Cursor) : Option Char := if c.offset = 0 then c.passed.head? else none

/-- Whether the character `a` begins at the cursor. -/
@[inline]
def isAt (c : Cursor) (a : Char) : Bool := c.char? == some a

/-- Whether the bytes from the cursor on begin with those of `p`. A character has at least one byte, so
    as many characters as there are bytes to compare are enough to look at. -/
def startsWith (c : Cursor) (p : Text) : Bool :=
  (bytes p).isPrefixOf ((bytes (c.ahead.take (c.offset + (bytes p).length))).drop c.offset)

theorem length_le_length_bytes (t : Text) : t.length ≤ (bytes t).length := by
  induction t with
  | nil => exact Nat.zero_le _
  | cons a t ih =>
    have ha : 0 < (String.utf8EncodeChar a).length := by
      rw [String.length_utf8EncodeChar]
      exact a.utf8Size_pos
    simp only [bytes, List.flatMap_cons, List.length_cons, List.length_append] at ih ⊢
    omega

theorem take_bytes_take (t : Text) (n : Nat) : (bytes (t.take n)).take n = (bytes t).take n := by
  by_cases h : t.length ≤ n
  · rw [List.take_of_length_le h]
  · have hn := length_le_length_bytes (t.take n)
    rw [List.length_take] at hn
    conv => rhs; rw [← List.take_append_drop n t, bytes, List.flatMap_append]
    rw [List.take_append_of_le_length (by simp only [bytes] at hn ⊢; omega)]
    rfl

theorem startsWith_eq (c : Cursor) (p : Text) :
    c.startsWith p = (bytes p).isPrefixOf ((bytes c.ahead).drop c.offset) := by
  rw [Bool.eq_iff_iff, startsWith, List.isPrefixOf_iff_prefix, List.isPrefixOf_iff_prefix,
    List.prefix_iff_eq_take, List.prefix_iff_eq_take, List.take_drop, List.take_drop, take_bytes_take]

/-! ### Moving -/

/-- The character at the cursor and the place behind it. -/
@[inline]
def next? (c : Cursor) : Option (Char × Cursor) :=
  match c with
  | ⟨passed, a :: rest, 0⟩ => some (a, ⟨a :: passed, rest, 0⟩)
  | _ => none

/-- The place `n` bytes behind the characters `passed`. -/
def settle : Text → Text → Nat → Cursor
  | passed, [], n => ⟨passed, [], n⟩
  | passed, a :: rest, n =>
    if a.utf8Size ≤ n then settle (a :: passed) rest (n - a.utf8Size) else ⟨passed, a :: rest, n⟩

/-- The place `n` bytes on, wherever that is. -/
def skip (n : Nat) (c : Cursor) : Cursor := settle c.passed c.ahead (c.offset + n)

/-- The character that begins `n` bytes on. -/
def charAfter (n : Nat) (c : Cursor) : Option Char := (c.skip n).char?

/-- The first place behind `passed` where a character with a first byte in `p` begins, or the end. -/
@[specialize]
def seek (p : UInt8 → Bool) : Text → Text → Cursor
  | passed, [] => ⟨passed, [], 0⟩
  | passed, a :: rest => if p (leadByte a) then ⟨passed, a :: rest, 0⟩ else seek p (a :: passed) rest

/-- The first place from here on where a character with a first byte in `p` begins, or the end. A
    cursor that stands in no such place does not move. -/
@[inline]
def skipUntil (p : UInt8 → Bool) (c : Cursor) : Cursor :=
  if c.offset = 0 then seek p c.passed c.ahead else c

/-- The text from the place `c` to the later place `d`, for two places between characters. -/
def upTo (c d : Cursor) : Text := (d.passed.take (d.passed.length - c.passed.length)).reverse

end Cursor
end WikiArticle
