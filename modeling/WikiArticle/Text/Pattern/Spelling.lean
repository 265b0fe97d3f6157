import WikiArticle.Text.Pattern.Brackets
import WikiArticle.Text.Pattern.Weight

/-! How patterns are written: as regular expressions with sets, groups, alternatives, repetitions, anchors and
    flags. The signs of a pattern are read one by one, each under the flags that are on where it stands, and build
    the pattern on a stack of open groups. A repetition repeats what stands before it in its group. Names of groups
    and the preference for short or long matches have no effect on whether a pattern occurs, so they are read and
    not kept. A text that nests its parts too deep, or whose pattern is too heavy, writes no pattern. -/

namespace WikiArticle
namespace Pattern

/-! ### Signs -/

/-- How a group begins. -/
inductive GroupStart where
  /-- With a parenthesis alone. -/
  | plain
  /-- With a name. -/
  | named (name : Text)
  /-- With flags of its own, which makes it no part to be told apart. -/
  | flagged (changes : FlagChanges)
  deriving DecidableEq, Repr

/-- One sign of a written pattern. -/
inductive Sign where
  /-- A pattern of its own, and how deep its parts stand in one another. -/
  | part (p : Pattern) (depth : Nat)
  | bar
  | groupStart (start : GroupStart)
  | groupStop
  /-- Flags for the rest of the group. -/
  | flags (changes : FlagChanges)
  /-- A repetition of what stands before it. -/
  | times (min : Nat) (max : Option Nat)
  deriving DecidableEq, Repr

/-! ### Groups -/

/-- Whether a text can name a group. -/
def isGroupName : Text → Bool
  | [] => false
  | c :: rest => (c == '_' || Property.alphabetic.contains c) &&
    rest.all fun c => Text.isAlphanumeric c || c == '_' || c == '.' || c == '[' || c == ']'

/-- The start of a group whose name begins here. -/
def namedGroup? (t : Text) : Option (Sign × Text) :=
  let name := t.takeWhile (· != '>')
  match t.dropWhile (· != '>') with
  | _ :: rest => if isGroupName name then some (.groupStart (.named name), rest) else none
  | [] => none

/-- The sign that flags begin: a group of their own, or the rest of the group that they stand in. -/
def flagged? (t : Text) : Option (Sign × Text) := do
  let letters := t.takeWhile fun c => c != ':' && c != ')'
  let changes ← flagChanges? letters
  match t.drop letters.length with
  | ':' :: rest => some (.groupStart (.flagged changes), rest)
  | ')' :: rest => if letters.isEmpty then none else some (.flags changes, rest)
  | _ => none

/-- The sign that an opening parenthesis begins. -/
def group? (flags : Flags) (t : Text) : Option (Sign × Text) :=
  match flags.next t with
  | '?' :: 'P' :: '<' :: rest => namedGroup? rest
  | '?' :: '<' :: rest => namedGroup? rest
  | '?' :: rest => flagged? rest
  | t => some (.groupStart .plain, t)

/-! ### Repetitions -/

/-- A number below 2^32, which white space can stand around. -/
def number? (flags : Flags) (t : Text) : Option (Nat × Text) :=
  let (digits, rest) := flags.span (·.isDigit) (Text.trimStart t)
  let n := Text.decimal digits
  if digits.isEmpty || UInt32.size ≤ n then none else some (n, Text.trimStart rest)

/-- The repetition that the text behind an opening brace counts. -/
def counted? (flags : Flags) (t : Text) : Option (Sign × Text) := do
  let (min, rest) ← number? flags (flags.next t)
  match rest with
  | '}' :: rest => some (.times min (some min), flags.next rest)
  | ',' :: rest =>
    match flags.next rest with
    | '}' :: rest => some (.times min none, flags.next rest)
    | rest =>
      match ← number? flags rest with
      | (max, '}' :: rest) => if min ≤ max then some (.times min (some max), flags.next rest) else none
      | _ => none
  | _ => none

/-- A repetition with the text behind it, where a question mark makes it prefer to be short. -/
def preferring : Sign × Text → Sign × Text
  | (sign, '?' :: rest) => (sign, rest)
  | (sign, rest) => (sign, rest)

/-! ### Reading -/

/-- The sign of a character or class outside of a set. -/
def Atom.sign? (flags : Flags) : Atom → Option Sign
  | char c byte => (charSet? flags true c byte).map fun s => .part (.one (flags.folded s)) 0
  | set s => some (.part (.one s) 0)
  | place p => some (.part p 0)

/-- Any character, but for those that end lines. -/
def anyChar? (flags : Flags) : Option CharSet :=
  flags.allowed? <|
    if flags.contains .dotAll then .all
    else if flags.contains .crLf then (CharSet.ofText "A D").complement
    else (CharSet.ofText "A").complement

/-- The first sign of a text that begins with one. -/
def sign? (flags : Flags) : Text → Option (Sign × Text)
  | '.' :: rest => (anyChar? flags).map fun s => (.part (.one s) 0, rest)
  | '^' :: rest => some (.part (if flags.contains .lines then lineStart flags else textStart) 0, rest)
  | '$' :: rest => some (.part (if flags.contains .lines then lineStop flags else textStop) 0, rest)
  | '|' :: rest => some (.bar, rest)
  | '(' :: rest => group? flags rest
  | ')' :: rest => some (.groupStop, rest)
  | '*' :: rest => some (preferring (.times 0 none, rest))
  | '+' :: rest => some (preferring (.times 1 none, rest))
  | '?' :: rest => some (preferring (.times 0 (some 1), rest))
  | '{' :: rest => (counted? flags rest).map preferring
  | '[' :: rest => (set? flags rest).map fun (part, rest) => (.part (.one part.chars) part.depth, rest)
  | t => do
    let (atom, rest) ← member? flags t
    some (← atom.sign? flags, rest)

/-! ### Building -/

/-- A pattern with what counts while it is built in. -/
structure Part where
  pattern : Pattern
  /-- How deep its parts stand in one another. -/
  depth : Nat
  /-- Whether it can be repeated. -/
  repeatable : Bool
  deriving DecidableEq, Repr

/-- Some patterns put together by `join`, which is one step deeper than each of them. -/
def Part.joined (join : List Pattern → Pattern) (parts : List Part) : Part :=
  ⟨join (parts.map (·.pattern)), 1 + (parts.map (·.depth)).foldl max 0, true⟩

/-- What a group holds so far. -/
structure Group where
  /-- The alternatives before the last bar, the last one first. -/
  done : List Part
  /-- What stands behind the last bar, the last one first. -/
  parts : List Part
  deriving DecidableEq, Repr

namespace Group

/-- Nothing. -/
def empty : Group := ⟨[], []⟩

/-- The sequence behind the last bar. -/
def sequence (g : Group) : Part :=
  match g.parts with
  | [] => ⟨.empty, 0, false⟩
  | [part] => part
  | parts => .joined Pattern.sequence parts.reverse

/-- What the group holds. -/
def whole (g : Group) : Part :=
  match g.done with
  | [] => g.sequence
  | done => .joined choice (g.sequence :: done).reverse

end Group

/-- A group that is open, seen from outside. -/
structure OpenGroup where
  /-- The flags that are on behind it. -/
  flags : Flags
  /-- Whether it is a part to be told apart. -/
  apart : Bool
  /-- The group that it stands in. -/
  around : Group
  deriving DecidableEq, Repr

/-- A pattern that is read up to some sign. -/
structure Draft where
  /-- The flags that are on. -/
  flags : Flags
  /-- The names of the groups. -/
  names : List Text
  /-- The innermost group. -/
  group : Group
  /-- The groups that are open, the innermost first. -/
  outer : List OpenGroup
  deriving DecidableEq, Repr

namespace Draft

/-- Nothing is read. -/
def empty : Draft := ⟨.initial, [], .empty, []⟩

/-- Adds a part to the innermost group. -/
def add (d : Draft) (part : Part) : Draft := { d with group := { d.group with parts := part :: d.group.parts } }

/-- Opens a group. -/
def openGroup (d : Draft) (names : List Text) (changes : FlagChanges) (apart : Bool) : Draft :=
  ⟨d.flags.after changes, names, .empty, ⟨d.flags, apart, d.group⟩ :: d.outer⟩

/-- Adds the next sign. -/
def next? (d : Draft) : Sign → Option Draft
  | .part p depth => some (d.add ⟨p, depth, true⟩)
  | .bar => some { d with group := ⟨d.group.sequence :: d.group.done, []⟩ }
  | .groupStart .plain => some (d.openGroup d.names [] true)
  | .groupStart (.named name) =>
    if d.names.contains name then none else some (d.openGroup (name :: d.names) [] true)
  | .groupStart (.flagged changes) => some (d.openGroup d.names changes false)
  | .groupStop =>
    match d.outer with
    | [] => none
    | g :: outer =>
      let part := d.group.whole
      let p := if g.apart then .group part.pattern else part.pattern
      some ((⟨g.flags, d.names, g.around, outer⟩ : Draft).add ⟨p, part.depth + 1, true⟩)
  | .flags changes => some ({ d with flags := d.flags.after changes }.add ⟨.empty, 0, false⟩)
  | .times min max =>
    match d.group.parts with
    | [] => none
    | part :: parts =>
      if part.repeatable then
        let p := repeated min max part.pattern
        some { d with group := { d.group with parts := ⟨p, part.depth + 1, true⟩ :: parts } }
      else none

/-- Adds the signs of a text. The fuel bounds their number. -/
def readWithin : Nat → Draft → Text → Option Draft
  | fuel, d, t =>
    match d.flags.next t, fuel with
    | [], _ => some d
    | _, 0 => none
    | t, fuel + 1 => do
      let (s, rest) ← sign? d.flags t
      readWithin fuel (← d.next? s) rest

end Draft

/-- How deep the parts of a pattern can stand in one another. -/
def depthLimit : Nat := 250

/-- The pattern that a text writes, if it writes one. -/
def ofText? (t : Text) : Option Pattern := do
  let d ← Draft.empty.readWithin t.length t
  let part := d.group.whole
  if d.outer.isEmpty && part.depth ≤ depthLimit && part.pattern.isLight then some part.pattern else none

end Pattern
end WikiArticle
