import WikiArticle.Text.Pattern

/-! Patterns put together. What makes no difference to where a pattern occurs is left out: sequences hold nothing
    empty, repetitions that change nothing are not there, characters to choose from become one set, and
    alternatives that begin alike have their beginning in common. -/

namespace WikiArticle
namespace Pattern

/-! ### Sequences -/

/-- Some patterns behind each other. -/
def sequence (ps : List Pattern) : Pattern :=
  match ps.filter (· != .empty) with
  | [] => .empty
  | p :: ps => ((p :: ps).dropLast).foldr .seq ((p :: ps).getLastD .empty)

/-- The patterns that stand behind each other in a pattern. -/
def items : Pattern → List Pattern
  | empty => []
  | seq p q => p.items ++ q.items
  | p => [p]

/-! ### Repetitions -/

/-- Whether a pattern takes no character wherever it occurs. -/
def isEmptyOnly : Pattern → Bool
  | empty | place _ => true
  | one _ => false
  | seq p q | alt p q => p.isEmptyOnly && q.isEmptyOnly
  | times _ _ p | group p => p.isEmptyOnly

/-- A pattern at least `min` times, and at most `max` times if there is a limit. Once is enough for what takes no
    character. -/
def repeated (min : Nat) (max : Option Nat) (p : Pattern) : Pattern :=
  let (min, max) := if p.isEmptyOnly then (Nat.min min 1, some ((max.map (Nat.min · 1)).getD 1)) else (min, max)
  match min, max with
  | 0, some 0 => .empty
  | 1, some 1 => p
  | min, max => .times min max p

/-! ### Alternatives -/

/-- The alternatives of a pattern. -/
def options : Pattern → List Pattern
  | alt p q => p.options ++ q.options
  | p => [p]

/-- The characters of a pattern that is one character of a set. -/
def chars? : Pattern → Option CharSet
  | one s => some s
  | _ => none

/-- The characters of some patterns, if each of them is one character of a set. -/
def charsOf? (ps : List Pattern) : Option CharSet :=
  (ps.mapM chars?).map fun sets => sets.foldr (· ∪ ·) .empty

/-- One of some patterns, of which there is at least one. -/
def anyOf (ps : List Pattern) : Pattern :=
  match charsOf? ps, ps with
  | some s, _ :: _ :: _ => .one s
  | _, p :: ps => ps.foldl .alt p
  | _, [] => .empty

/-- Whether a pattern is a certain character. -/
def isLiteral (p : Pattern) : Bool := (p.chars?.bind (·.only?)).isSome

/-- The items of a sequence, the literal ones that follow each other taken together. -/
def chunks (ps : List Pattern) : List (List Pattern) := ps.splitBy fun p q => p.isLiteral && q.isLiteral

/-- Whether a pattern has no part that is to be told apart. -/
def isGroupFree : Pattern → Bool
  | group _ => false
  | seq p q | alt p q => p.isGroupFree && q.isGroupFree
  | times _ _ p => p.isGroupFree
  | _ => true

/-- What two sequences of chunks begin with. -/
def common : List (List Pattern) → List (List Pattern) → List (List Pattern)
  | x :: xs, y :: ys => if x = y && x.all isGroupFree then x :: common xs ys else []
  | _, _ => []

/-- One of some patterns. If all of them are sequences that begin alike, only what follows is to be chosen from. -/
def choice (ps : List Pattern) : Pattern :=
  let ps := ps.flatMap options
  let sequences := ps.map fun p => chunks p.items
  match sequences with
  | first :: rest@(_ :: _) =>
    let start := rest.foldl common first
    if sequences.all (1 < ·.length) && !start.isEmpty then
      let ends := sequences.map fun s => sequence (s.drop start.length).flatten
      sequence (start.flatten ++ [anyOf ends])
    else anyOf ps
  | _ => anyOf ps

end Pattern
end WikiArticle
