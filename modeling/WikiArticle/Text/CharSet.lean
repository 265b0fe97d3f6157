/-! Sets of code points. A set is given by its runs: code points that are in it and code points that are not
    follow each other by turns, so that only the lengths of the runs have to be known. Every list of lengths
    gives a set, and each operation on sets is one walk along the runs (`combine`). -/

namespace WikiArticle

/-- A set of code points. -/
structure CharSet where
  /-- Whether the first run is in the set. -/
  first : Bool
  /-- The lengths of all runs but the last, which has no end. -/
  runs : List Nat
  deriving DecidableEq, Repr

namespace CharSet

/-! ### Membership -/

/-- Whether runs have a code point, the first of them being in the set or not. -/
def hasFrom : Bool → List Nat → Nat → Bool
  | b, [], _ => b
  | b, k :: runs, n => if n < k then b else hasFrom (!b) runs (n - k)

/-- Whether a code point is in a set. -/
def has (s : CharSet) (n : Nat) : Bool := hasFrom s.first s.runs n

/-- Whether a character is in a set. -/
def contains (s : CharSet) (c : Char) : Bool := s.has c.toNat

/-! ### Building -/

/-- The set without elements. -/
def empty : CharSet := ⟨false, []⟩

/-- The set of everything. -/
def all : CharSet := ⟨true, []⟩

/-- The set with the code points from one to another. -/
def range (first last : Nat) : CharSet := ⟨false, [first, last + 1 - first]⟩

/-- The set with one code point. -/
def single (n : Nat) : CharSet := range n n

/-- The code points of characters: those of the standard, surrogates left out. -/
def characters : CharSet := ⟨true, [0xD800, 0x800, 0x102000]⟩

/-- The code points of ASCII. -/
def ascii : CharSet := range 0 0x7F

/-- The first `n` code points as `b` says, and from there on a set. -/
def lead (b : Bool) (n : Nat) (s : CharSet) : CharSet :=
  if n = 0 then s
  else if b = s.first then
    match s.runs with
    | [] => s
    | k :: runs => ⟨b, (n + k) :: runs⟩
  else ⟨b, n :: s.runs⟩

/-! ### Combining -/

/-- A set changed by what `f` makes of being in it. -/
def change (f : Bool → Bool) : Bool → List Nat → CharSet
  | b, [] => ⟨f b, []⟩
  | b, k :: runs => lead (f b) k (change f (!b) runs)

/-- The first `n` code points changed by `f`, and from there on what `next` makes of the runs that follow. -/
def changeThen (f : Bool → Bool) (next : Bool → List Nat → CharSet) : Nat → Bool → List Nat → CharSet
  | n, b, [] => lead (f b) n (next b [])
  | n, b, k :: runs =>
    if n < k then lead (f b) n (next b ((k - n) :: runs))
    else lead (f b) k (changeThen f next (n - k) (!b) runs)

/-- The runs of what `f` makes of two sets. -/
def combineFrom (f : Bool → Bool → Bool) : Bool → List Nat → Bool → List Nat → CharSet
  | a, [] => change (f a)
  | a, k :: runs => changeThen (f a) (combineFrom f (!a) runs) k

/-- What `f` makes of two sets. -/
def combine (f : Bool → Bool → Bool) (s t : CharSet) : CharSet := combineFrom f s.first s.runs t.first t.runs

instance : Union CharSet := ⟨combine or⟩
instance : Inter CharSet := ⟨combine and⟩
instance : SDiff CharSet := ⟨combine fun a b => a && !b⟩

/-- The set of what is in one of two sets and not in both. -/
def difference (s t : CharSet) : CharSet := combine xor s t

/-- The set of what is not in a set. -/
def complement (s : CharSet) : CharSet := ⟨!s.first, s.runs⟩

/-! ### Ranges -/

/-- The set of the code points in some ranges from `n` on. -/
def ofRangesFrom : Nat → List (Nat × Nat) → CharSet
  | _, [] => empty
  | n, (first, last) :: rest =>
    lead false (first - n) (lead true (last + 1 - first) (ofRangesFrom (last + 1) rest))

/-- The set of the code points in some ranges, which are apart and in increasing order. -/
def ofRanges (ranges : List (Nat × Nat)) : CharSet := ofRangesFrom 0 ranges

/-- The set of some code points from `n` on, which are in increasing order. -/
def ofSortedFrom : Nat → List Nat → CharSet
  | _, [] => empty
  | n, m :: ms => if m < n then ofSortedFrom n ms else lead false (m - n) (lead true 1 (ofSortedFrom (m + 1) ms))

/-- The set of some code points. -/
def ofList (ns : List Nat) : CharSet := ofSortedFrom 0 ns.mergeSort

/-- The ranges of the runs that are in the set and have an end, the first run beginning at `n`. -/
def rangesFrom : Bool → List Nat → Nat → List (Nat × Nat)
  | _, [], _ => []
  | b, k :: runs, n =>
    let rest := rangesFrom (!b) runs (n + k)
    if b && k != 0 then (n, n + k - 1) :: rest else rest

/-- The ranges of a set, but for one that has no end. -/
def ranges (s : CharSet) : List (Nat × Nat) := rangesFrom s.first s.runs 0

/-- The only character of a set that has just one. -/
def only? (s : CharSet) : Option Nat :=
  match (s ∩ characters).ranges with
  | [(first, last)] => if first = last then some first else .none
  | _ => .none

end CharSet
end WikiArticle
