import WikiArticle.Text.Pattern.Escape

/-! Sets of characters in brackets: characters, ranges, classes, sets in sets, and operations on sets. An operation
    takes everything before it as its left side. -/

namespace WikiArticle
namespace Pattern

/-! ### Operations -/

/-- An operation on two sets. -/
inductive SetOperation where
  /-- What is in both. -/
  | both
  /-- What is in the first and not in the second. -/
  | without
  /-- What is in just one of them. -/
  | either
  deriving DecidableEq, Repr

/-- What an operation makes of two sets. -/
def SetOperation.apply : SetOperation → CharSet → CharSet → CharSet
  | both, s, t => s ∩ t
  | without, s, t => s \ t
  | either, s, t => .difference s t

/-- A part of a set, and how deep its own parts stand in one another. -/
structure SetPart where
  chars : CharSet
  depth : Nat
  deriving DecidableEq, Repr

/-- A set that is read up to some sign. -/
structure SetDraft where
  /-- The last operation, and what stands before it. -/
  left : Option (SetOperation × SetPart)
  /-- What stands behind it, the last part first. -/
  parts : List SetPart
  deriving DecidableEq, Repr

namespace SetDraft

/-- Nothing is read. -/
def empty : SetDraft := ⟨none, []⟩

/-- The set with one more part. -/
def add (d : SetDraft) (part : SetPart) : SetDraft := { d with parts := part :: d.parts }

/-- What stands behind the last operation. -/
def right (d : SetDraft) : SetPart :=
  match d.parts with
  | [] => ⟨.empty, 0⟩
  | [part] => part
  | parts => ⟨parts.foldl (fun s part => part.chars ∪ s) .empty, 1 + (parts.map (·.depth)).foldl max 0⟩

/-- The set that is read. -/
def result (flags : Flags) (d : SetDraft) : SetPart :=
  match d.left with
  | none => d.right
  | some (operation, left) =>
    ⟨operation.apply (flags.folded left.chars) (flags.folded d.right.chars), 1 + max left.depth d.right.depth⟩

/-- The set up to an operation. -/
def operate (flags : Flags) (d : SetDraft) (operation : SetOperation) : SetDraft :=
  ⟨some (operation, d.result flags), []⟩

end SetDraft

/-! ### Parts -/

/-- The class of ASCII that has a name. -/
def asciiClass? (name : Text) : Option CharSet :=
  match String.ofList name with
  | "alnum" => some (.ofText "30-39 41-5A 61-7A")
  | "alpha" => some (.ofText "41-5A 61-7A")
  | "ascii" => some .ascii
  | "blank" => some (.ofText "9 20")
  | "cntrl" => some (.ofText "0-1F 7F")
  | "digit" => some (.ofText "30-39")
  | "graph" => some (.ofText "21-7E")
  | "lower" => some (.ofText "61-7A")
  | "print" => some (.ofText "20-7E")
  | "punct" => some (.ofText "21-2F 3A-40 5B-60 7B-7E")
  | "space" => some (.ofText "9-D 20")
  | "upper" => some (.ofText "41-5A")
  | "word" => some (.ofText "30-39 41-5A 5F 61-7A")
  | "xdigit" => some (.ofText "30-39 41-46 61-66")
  | _ => none

/-- The class that the text behind an opening bracket names between colons, or that it excludes with a `^` before
    the name. -/
def namedClass? : Text → Option ((Bool × CharSet) × Text)
  | ':' :: t =>
    let negated := t.head? == some '^'
    let t := if negated then t.drop 1 else t
    match t.dropWhile (· != ':') with
    | ':' :: ']' :: rest => (asciiClass? (t.takeWhile (· != ':'))).map fun s => ((negated, s), rest)
    | _ => none
  | _ => none

/-- One character or class in a set. -/
def member? (flags : Flags) : Text → Option (Atom × Text)
  | '\\' :: rest => escaped? flags rest
  | c :: rest => some (.char c false, rest)
  | [] => none

/-- The set of a character or class. -/
def memberSet? (flags : Flags) : Atom → Option CharSet
  | .char c byte => charSet? flags false c byte
  | .set s => some s
  | .place _ => none

/-- The set of the characters from one to another. -/
def rangeSet? (flags : Flags) : Atom → Atom → Option CharSet
  | .char a ab, .char b bb => do
    let _ ← charSet? flags false a ab
    let _ ← charSet? flags false b bb
    if a ≤ b then some (.range a.toNat b.toNat) else none
  | _, _ => none

/-- One character, class or range in a set. A dash is no range before the end of the set or another dash. -/
def setItem? (flags : Flags) (t : Text) : Option (SetPart × Text) := do
  let (first, rest) ← member? flags t
  let alone := (memberSet? flags first).map fun s => (⟨s, 0⟩, flags.next rest)
  match flags.next rest with
  | [] => none
  | '-' :: after =>
    if flags.peek? after == some ']' || flags.peek? after == some '-' then alone
    else
      let (last, rest) ← member? flags (flags.next after)
      (rangeSet? flags first last).map fun s => (⟨s, 0⟩, rest)
  | _ => alone

/-! ### Reading -/

/-- The start of a set behind its opening bracket: whether it is negated, and the signs that stand for themselves
    there, which are dashes or one closing bracket. -/
def setStart (flags : Flags) (t : Text) : Bool × SetDraft × Text :=
  let t := flags.next t
  let negated := t.head? == some '^'
  let t := if negated then flags.next (t.drop 1) else t
  let single := fun (c : Char) => (⟨.single c.toNat, 0⟩ : SetPart)
  match flags.span (· == '-') t with
  | ([], ']' :: rest) => (negated, SetDraft.empty.add (single ']'), rest)
  | (dashes, rest) => (negated, dashes.foldl (fun d c => d.add (single c)) .empty, rest)

/-- The rest of a set up to its closing bracket. The fuel bounds the number of signs. -/
def setWithin (flags : Flags) : Nat → SetDraft → Text → Option (SetPart × Text)
  | 0, _, _ => none
  | fuel + 1, d, t =>
    match flags.next t with
    | ']' :: rest => some (d.result flags, rest)
    | '&' :: '&' :: rest => setWithin flags fuel (d.operate flags .both) rest
    | '-' :: '-' :: rest => setWithin flags fuel (d.operate flags .without) rest
    | '~' :: '~' :: rest => setWithin flags fuel (d.operate flags .either) rest
    | '[' :: rest =>
      match namedClass? rest with
      | some ((negated, s), rest) => do setWithin flags fuel (d.add ⟨← flags.meant? negated s, 0⟩) rest
      | none => do
        let (negated, start, rest) := setStart flags rest
        let (inner, rest) ← setWithin flags fuel start rest
        setWithin flags fuel (d.add ⟨← flags.meant? negated inner.chars, inner.depth + 1⟩) rest
    | t => do
      let (part, rest) ← setItem? flags t
      setWithin flags fuel (d.add part) rest

/-- The set that the text behind an opening bracket writes. -/
def set? (flags : Flags) (t : Text) : Option (SetPart × Text) := do
  let (negated, start, rest) := setStart flags t
  let (inner, rest) ← setWithin flags (rest.length + 1) start rest
  some (⟨← flags.meant? negated inner.chars, inner.depth + 1⟩, rest)

end Pattern
end WikiArticle
