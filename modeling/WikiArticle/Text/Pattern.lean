import WikiArticle.Text.Blank
import WikiArticle.Text.CharSet

/-! Patterns of text, and whether a pattern occurs in a text. What a pattern matches begins at one place of
    the text and ends at another; since only the occurrence counts, a pattern is read as a function from
    sets of places to sets of places, and it occurs when it leads from all places to any place. A set of
    places is a number: the place behind the first `i` characters is in it when bit `i` is set. -/

namespace WikiArticle

/-! ### Patterns -/

/-- What one side of a place can look like. -/
structure Side where
  /-- The characters that can stand there. -/
  chars : CharSet
  /-- Whether the text can end there. -/
  border : Bool
  deriving DecidableEq, Repr

namespace Side

/-- Whether a side that has this character, or none, looks so. -/
def holds (s : Side) : Option Char → Bool
  | some c => s.chars.contains c
  | none => s.border

/-- A side that looks otherwise. -/
def other (s : Side) : Side := ⟨s.chars.complement, !s.border⟩

/-- Anything. -/
def any : Side := ⟨.all, true⟩

/-- A character of a set. -/
def oneOf (s : CharSet) : Side := ⟨s, false⟩

/-- A character of a set, or the end of the text. -/
def oneOfOrBorder (s : CharSet) : Side := ⟨s, true⟩

end Side

/-- A pattern of text. -/
inductive Pattern where
  /-- No character. -/
  | empty
  /-- One character of a set. -/
  | one (s : CharSet)
  /-- No character, at a place whose two sides look like one of these pairs. -/
  | place (sides : List (Side × Side))
  /-- One pattern, and behind it another. -/
  | seq (p q : Pattern)
  /-- One of two patterns. -/
  | alt (p q : Pattern)
  /-- A pattern at least `min` times, and at most `max` times if there is a limit. -/
  | times (min : Nat) (max : Option Nat) (p : Pattern)
  /-- A pattern whose occurrence is a part to be told apart. -/
  | group (p : Pattern)
  deriving DecidableEq, Repr

namespace Pattern

/-! ### Sets of places -/

/-- A set of places of one text. -/
abbrev Places := Nat

/-- The places that are marked, from the first one on. -/
def Places.ofMarks (marks : List Bool) : Places := marks.foldr (fun b n => 2 * n + b.toNat) 0

/-- All places of a text. -/
def Places.all (t : Text) : Places := .ofMarks (List.replicate (t.length + 1) true)

/-- The places before a character of a set. -/
def Places.before (t : Text) (s : CharSet) : Places := .ofMarks (t.map s.contains)

/-- The places whose two sides look like one of some pairs. -/
def Places.between (t : Text) (sides : List (Side × Side)) : Places :=
  let cs := t.map some
  .ofMarks (List.zipWith (fun a b => sides.any fun s => s.1.holds a && s.2.holds b) (none :: cs) (cs ++ [none]))

/-! ### Occurrence -/

/-- What `turns` turns of `f` lead to, or fewer when a turn leads nowhere else. -/
def settle (f : Places → Places) : Nat → Places → Places
  | 0, s => s
  | turns + 1, s => if f s = s then s else settle f turns (f s)

/-- A pattern laid over a text: instead of characters and sides it holds the places where they are. -/
inductive Route where
  /-- Stays at the places of a set. -/
  | stay (places : Places)
  /-- Leads behind the next character, at the places of a set. -/
  | step (places : Places)
  | seq (r q : Route)
  | alt (r q : Route)
  | times (min : Nat) (max : Option Nat) (r : Route)

/-- The places that a route leads to from those of a set, in a text with this number of places. Of more turns
    than there are places some stand still, and one of those can be left out or added: a larger number of turns
    leads to the same places. -/
def Route.run (count : Nat) : Route → Places → Places
  | stay places, s => s &&& places
  | step places, s => (s &&& places) <<< 1
  | seq r q, s => q.run count (r.run count s)
  | alt r q, s => r.run count s ||| q.run count s
  | times min max r, s =>
    settle (fun s => s ||| r.run count s) (((max.map (· - min)).getD count).min count)
      (settle (r.run count) (min.min count) s)

/-- The route of a pattern over a text. -/
def route (t : Text) : Pattern → Route
  | empty => .stay (Places.all t)
  | one s => .step (Places.before t s)
  | place sides => .stay (Places.between t sides)
  | seq p q => .seq (route t p) (route t q)
  | alt p q => .alt (route t p) (route t q)
  | times min max p => .times min max (route t p)
  | group p => route t p

/-- Whether a pattern occurs in a text. -/
def occursIn (p : Pattern) (t : Text) : Bool := (p.route t).run (t.length + 1) (Places.all t) != 0

end Pattern
end WikiArticle
