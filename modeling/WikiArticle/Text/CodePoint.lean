import WikiArticle.Text.Blank

/-! Numbers in texts, and characters by number. Where a text cannot hold a character as itself, hexadecimal digits of either case
    give its code point; surrogates and numbers past the last code point name no character. -/

namespace WikiArticle
namespace Text

/-- The number that decimal digits denote. -/
def decimal (digits : Text) : Nat := digits.foldl (fun n c => 10 * n + (c.toNat - '0'.toNat)) 0

/-- The value of a hexadecimal digit. -/
def hexDigit? (c : Char) : Option Nat :=
  if c.isDigit then some (c.toNat - '0'.toNat)
  else if 'a' ≤ c ∧ c ≤ 'f' then some (c.toNat - 'a'.toNat + 10)
  else if 'A' ≤ c ∧ c ≤ 'F' then some (c.toNat - 'A'.toNat + 10)
  else none

/-- The number that hexadecimal digits denote. -/
def hexNumber? (digits : Text) : Option Nat :=
  digits.foldlM (fun n c => (hexDigit? c).map (16 * n + ·)) 0

/-- The character of a code point, if there is one. -/
def scalar? (n : Nat) : Option Char := if n.isValidChar then some (Char.ofNat n) else none

/-- The character whose code point hexadecimal digits give. -/
def charOfHex? (digits : Text) : Option Char := (hexNumber? digits).bind scalar?

end Text
end WikiArticle
