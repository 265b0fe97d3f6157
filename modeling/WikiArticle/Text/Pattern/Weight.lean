import WikiArticle.Text.Pattern.Build
import WikiArticle.Text.Utf8

/-! How heavy a pattern is: how many bytes the automaton takes that looks for it in the bytes of a text. A pattern
    that is too heavy is not used. A text can be read forward, to find where an occurrence ends, and backward,
    to find where it begins; there is an automaton for each. -/

namespace WikiArticle
namespace Pattern

/-- The direction in which a text is read. -/
inductive Direction where
  | forward
  | backward
  deriving DecidableEq, Repr

/-! ### Parts of an automaton -/

/-- The weight of a state. -/
def stateWeight : Nat := 32

/-- The weight of a way from a state on, for the bytes of a range. -/
def byteWeight : Nat := 8

/-- The weight of a way from a state on that takes no byte. -/
def freeWeight : Nat := 4

/-- The weight of a state with two ways on. -/
def forkWeight : Nat := stateWeight + 2 * freeWeight

/-! ### Sets -/

/-- The weight of the tree of some byte sequences. Read forward, equal ends are shared, and one state stands
    behind all of them; read backward, equal beginnings are shared, and a state in front leads to each
    sequence. -/
def treeWeight (seqs : List (List Utf8.ByteRange)) : Direction → Nat
  | .forward =>
    let nodes := (Utf8.nodes 4 seqs).eraseDups
    (nodes.length + 1) * stateWeight + (nodes.flatMap Utf8.branches).length * byteWeight
  | .backward =>
    let steps := ((Utf8.nodes 4 seqs).flatMap Utf8.branches).length
    (steps + 2) * stateWeight + seqs.length * freeWeight

/-- The weight of one character of a set. -/
def setWeight (s : CharSet) (d : Direction) : Nat :=
  match s.only? with
  | some n => (Char.ofNat n).utf8Size * stateWeight
  | none =>
    let s := s ∩ .characters
    if s \ .ascii = .empty then 2 * stateWeight + s.ranges.length * byteWeight
    else treeWeight (Utf8.ofSet s) d

/-! ### Patterns -/

/-- Whether a pattern takes a character wherever it occurs. -/
def takesChars : Pattern → Bool
  | empty | place _ => false
  | one _ => true
  | seq p q => p.takesChars || q.takesChars
  | alt p q => p.takesChars && q.takesChars
  | times min _ p => min != 0 && p.takesChars
  | group p => p.takesChars

/-- The weight of what chooses between the alternatives of a pattern, if there is a choice. -/
def choiceWeight (p : Pattern) : Nat :=
  match p.options.length with
  | 1 => 0
  | n => 2 * stateWeight + n * freeWeight

/-- The weight of the alternatives of a pattern. -/
def bareWeight (d : Direction) : Pattern → Nat
  | empty | place _ => stateWeight
  | one s => setWeight s d
  | seq p q => p.bareWeight d + p.choiceWeight + (q.bareWeight d + q.choiceWeight)
  | alt p q => p.bareWeight d + q.bareWeight d
  | times min max p =>
    let copy := p.bareWeight d + p.choiceWeight
    match min, max with
    | 0, some 1 => forkWeight + copy + stateWeight
    | 0, none => if p.takesChars then forkWeight + copy else 2 * forkWeight + copy + stateWeight
    | min, none => min * copy + forkWeight
    | min, some max =>
      if min = max then min * copy
      else (if min = 0 then stateWeight else min * copy) + stateWeight + (max - min) * (forkWeight + copy)
  | group p =>
    let parts := match d with
      | .forward => 2 * stateWeight
      | .backward => 0
    parts + p.bareWeight d + p.choiceWeight

/-- The weight of the states that every automaton has. -/
def frameWeight : Direction → Nat
  | .forward => 208
  | .backward => 144

/-- The weight of a pattern. -/
def weight (p : Pattern) (d : Direction) : Nat := frameWeight d + p.bareWeight d + p.choiceWeight

/-- The greatest weight of a pattern that is used. -/
def weightLimit : Nat := 10 * (1 <<< 20)

/-- Whether a pattern is light enough to be used. -/
def isLight (p : Pattern) : Bool := p.weight .forward ≤ weightLimit && p.weight .backward ≤ weightLimit

end Pattern
end WikiArticle
