import WikiArticle.Text.CharSet

/-! The bytes of characters. Characters next to each other have bytes that differ in few places, so that the
    byte sequences of a set of characters fall into products of ranges, one range for each byte. -/

namespace WikiArticle
namespace Utf8

/-- The bytes from one to another. -/
abbrev ByteRange := Nat × Nat

/-- The products for the numbers from `first` to `last`, which are written as one byte on top of `lead` and `tails`
    bytes of six bits behind it. -/
def products (lead : Nat) : Nat → Nat → Nat → List (List ByteRange)
  | 0, first, last => [[(lead + first, lead + last)]]
  | tails + 1, first, last =>
    let unit := 64 ^ (tails + 1)
    let a := first / unit
    let b := last / unit
    let behind := fun n first last => (products 0x80 tails first last).map ((lead + n, lead + n) :: ·)
    if a = b && (first % unit != 0 || last % unit != unit - 1) then behind a (first % unit) (last % unit)
    else
      let wholeFirst := if first % unit = 0 then a else a + 1
      let wholeStop := if last % unit = unit - 1 then b + 1 else b
      (if wholeFirst = a then [] else behind a (first % unit) (unit - 1)) ++
        (if wholeFirst < wholeStop then
          [(lead + wholeFirst, lead + wholeStop - 1) :: List.replicate (tails + 1) (0x80, 0xBF)] else []) ++
        (if wholeStop = b + 1 then [] else behind b 0 (last % unit))

/-- The code points of each length: the first and the last of them, what their first byte is counted from, and
    the number of bytes behind it. Surrogates have no bytes. -/
def lengths : List (Nat × Nat × Nat × Nat) :=
  [(0, 0x7F, 0, 0), (0x80, 0x7FF, 0xC0, 1), (0x800, 0xD7FF, 0xE0, 2), (0xE000, 0xFFFF, 0xE0, 2),
    (0x10000, 0x10FFFF, 0xF0, 3)]

/-- The products for the characters of a set, in the order of the characters. -/
def ofSet (s : CharSet) : List (List ByteRange) :=
  (s ∩ .characters).ranges.flatMap fun (first, last) =>
    lengths.flatMap fun (low, high, lead, tails) =>
      if max first low ≤ min last high then products lead tails (max first low) (min last high) else []

/-! ### Trees -/

/-- The first ranges of some sequences, each with what follows it in those that begin with it. -/
def branches : List (List ByteRange) → List (ByteRange × List (List ByteRange))
  | [] => []
  | [] :: rest => branches rest
  | (r :: tail) :: rest =>
    match branches rest with
    | [] => [(r, [tail])]
    | (next, tails) :: more => if r = next then (r, tail :: tails) :: more else (r, [tail]) :: (next, tails) :: more

/-- The inner nodes of the tree of some sequences, each as the sequences that go on from it. No sequence is longer
    than `depth`. -/
def nodes : Nat → List (List ByteRange) → List (List (List ByteRange))
  | 0, _ => []
  | depth + 1, seqs =>
    match branches seqs with
    | [] => []
    | bs => seqs :: bs.flatMap fun b => nodes depth b.2

end Utf8
end WikiArticle
