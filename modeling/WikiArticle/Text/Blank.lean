/-! Blank characters and the trimming of text. A text is a list of characters throughout the library, so
    that every pass over it is a recursion on its characters; a character is blank when it has the
    Unicode property `White_Space`, line breaks included. -/

namespace WikiArticle

/-- A text, as the characters it is written with. -/
abbrev Text := List Char

namespace Text

/-! ### Blank characters -/

/-- The code points with the property `White_Space`, as inclusive ranges in increasing order. -/
def blankRanges : List (Nat × Nat) :=
  [(0x09, 0x0D), (0x20, 0x20), (0x85, 0x85), (0xA0, 0xA0), (0x1680, 0x1680), (0x2000, 0x200A),
    (0x2028, 0x2029), (0x202F, 0x202F), (0x205F, 0x205F), (0x3000, 0x3000)]

/-- Whether `c` is white space. -/
def isBlank (c : Char) : Bool :=
  blankRanges.any fun r => r.1 ≤ c.toNat && c.toNat ≤ r.2

theorem isBlank_of_isWhitespace {c : Char} (h : c.isWhitespace = true) : isBlank c = true := by
  simp only [Char.isWhitespace, Bool.or_eq_true, decide_eq_true_eq] at h
  rcases h with ((rfl | rfl) | rfl) | rfl <;> rfl

/-- Whether `t` holds nothing but white space. -/
def isAllBlank (t : Text) : Bool := t.all isBlank

/-! ### Trimming -/

/-- The text without the white space it starts with. -/
def trimStart (t : Text) : Text := t.dropWhile isBlank

/-- The text without the white space it ends with. -/
def trimEnd (t : Text) : Text := (t.reverse.dropWhile isBlank).reverse

/-- The text without white space at either end. -/
def trim (t : Text) : Text := trimEnd (trimStart t)

theorem trimStart_isSuffix (t : Text) : trimStart t <:+ t := List.dropWhile_suffix _

theorem trimEnd_isPrefix (t : Text) : trimEnd t <+: t := by
  have h := List.reverse_prefix.mpr (List.dropWhile_suffix (l := t.reverse) isBlank)
  simpa [trimEnd] using h

theorem trimEnd_append_of_isAllBlank (t : Text) {b : Text} (h : isAllBlank b = true) :
    trimEnd (t ++ b) = trimEnd t := by
  simp only [trimEnd, List.reverse_append]
  rw [List.dropWhile_append_of_pos]
  intro c hc
  exact List.all_eq_true.mp h c (List.mem_reverse.mp hc)

theorem dropWhile_dropWhile {α : Type} (p : α → Bool) (l : List α) :
    (l.dropWhile p).dropWhile p = l.dropWhile p := by
  induction l with
  | nil => rfl
  | cons a l ih => by_cases h : p a = true <;> simp [h, ih]

theorem trimEnd_trimEnd (t : Text) : trimEnd (trimEnd t) = trimEnd t := by
  simp [trimEnd, dropWhile_dropWhile]

theorem dropWhile_of_head? {t : Text} {a : Char} (h : t.head? = some a) (ha : isBlank a = false) :
    t.dropWhile isBlank = t := by
  cases t with
  | nil => cases h
  | cons b t =>
    cases h
    simp [ha]

theorem trim_of_ends {t : Text} {a b : Char} (ha : t.head? = some a) (hb : t.getLast? = some b)
    (ha' : isBlank a = false) (hb' : isBlank b = false) : trim t = t := by
  rw [trim, trimStart, dropWhile_of_head? ha ha', trimEnd, dropWhile_of_head? (List.head?_reverse.trans hb) hb',
    List.reverse_reverse]

end Text
end WikiArticle
