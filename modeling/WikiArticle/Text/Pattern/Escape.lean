import WikiArticle.Text.Pattern
import WikiArticle.Text.Pattern.Flag
import WikiArticle.Text.Property.Named

/-! What stands behind a backslash: a character, a set of characters, or a place. -/

namespace WikiArticle
namespace Pattern

/-- What is meant by one character, or by a backslash and what follows it. -/
inductive Atom where
  /-- A character; whether its number was written as that of one byte. -/
  | char (c : Char) (byte : Bool)
  /-- A set of characters. -/
  | set (s : CharSet)
  /-- A place. -/
  | place (p : Pattern)
  deriving DecidableEq, Repr

/-! ### Characters -/

/-- The first `n` signs of a text. -/
def Flags.take? (flags : Flags) : Nat → Text → Option (Text × Text)
  | 0, t => some ([], t)
  | n + 1, t =>
    match flags.next t with
    | c :: rest => (flags.take? n rest).map fun (cs, rest) => (c :: cs, rest)
    | [] => none

/-- The character that `n` hexadecimal digits give, or any number of them in braces. -/
def hexChar? (flags : Flags) (n : Nat) (t : Text) : Option (Atom × Text) :=
  match flags.next t with
  | '{' :: rest =>
    match flags.span (· != '}') rest with
    | (digits, _ :: rest) =>
      if digits.isEmpty then none else (Text.charOfHex? digits).map (.char · false, rest)
    | _ => none
  | t => do
    let (digits, rest) ← flags.take? n t
    (Text.charOfHex? digits).map (.char · (n = 2), rest)

/-- The character that a letter stands for, or another sign of ASCII for itself. The signs for the ends of words
    stand for no character. -/
def escapedChar? (c : Char) : Option Char :=
  match c with
  | 'n' => some '\n'
  | 't' => some '\t'
  | 'r' => some '\r'
  | 'a' => some '\x07'
  | 'f' => some '\x0c'
  | 'v' => some '\x0b'
  | c => if c.toNat < 0x80 && !c.isAlphanum && c != '<' && c != '>' then some c else none

/-! ### Sets -/

/-- The digits. -/
def Flags.digits (flags : Flags) : CharSet :=
  if flags.contains .unicode then Property.category ["Nd"] else .ofText "30-39"

/-- The white space. -/
def Flags.blanks (flags : Flags) : CharSet :=
  if flags.contains .unicode then Property.whiteSpace else .ofText "9-D 20"

/-- The characters of words. -/
def Flags.wordChars (flags : Flags) : CharSet :=
  if flags.contains .unicode then Property.word else .ofText "30-39 41-5A 5F 61-7A"

/-- The class of a letter, of which the upper-case one stands for all other characters. These classes do not
    depend on letter case. -/
def letterClass? (flags : Flags) (c : Char) : Option CharSet :=
  match c with
  | 'd' => some flags.digits
  | 's' => some flags.blanks
  | 'w' => some flags.wordChars
  | 'D' => flags.allowed? flags.digits.complement
  | 'S' => flags.allowed? flags.blanks.complement
  | 'W' => flags.allowed? flags.wordChars.complement
  | _ => none

/-- The set that a property describes, by one letter or by a description in braces. A description that means all
    other characters, behind an upper-case letter that does so too, means the set itself. -/
def property? (flags : Flags) (negated : Bool) (t : Text) : Option (Atom × Text) := do
  let (description, rest) ←
    match flags.next t with
    | '{' :: rest =>
      match flags.span (· != '}') rest with
      | (description, _ :: rest) => some (Property.ofText? description, rest)
      | _ => none
    | c :: rest => some ((Property.named? [c]).map (false, ·), rest)
    | [] => none
  if flags.contains .unicode then
    let (others, s) ← description
    some (.set (← flags.meant? (negated != others) s), rest)
  else none

/-! ### Places -/

/-- A side with a character of a word. -/
def Flags.inWord (flags : Flags) : Side := .oneOf flags.wordChars

/-- A place where a word begins. -/
def wordStart (flags : Flags) : Pattern := .place [(flags.inWord.other, flags.inWord)]

/-- A place where a word ends. -/
def wordStop (flags : Flags) : Pattern := .place [(flags.inWord, flags.inWord.other)]

/-- A place where a word begins or ends. -/
def wordBorder (flags : Flags) : Pattern :=
  .place [(flags.inWord.other, flags.inWord), (flags.inWord, flags.inWord.other)]

/-- A place within a word, or outside all words. -/
def noWordBorder (flags : Flags) : Pattern :=
  .place [(flags.inWord, flags.inWord), (flags.inWord.other, flags.inWord.other)]

/-- The start of a text. -/
def textStart : Pattern := .place [(.oneOfOrBorder .empty, .any)]

/-- The end of a text. -/
def textStop : Pattern := .place [(.any, .oneOfOrBorder .empty)]

/-- The start of a line. A carriage return and a line feed behind it end a line together. -/
def lineStart (flags : Flags) : Pattern :=
  if flags.contains .crLf then
    .place [(.oneOfOrBorder (.ofText "A"), .any), (.oneOf (.ofText "D"), (Side.oneOf (.ofText "A")).other)]
  else .place [(.oneOfOrBorder (.ofText "A"), .any)]

/-- The end of a line. -/
def lineStop (flags : Flags) : Pattern :=
  if flags.contains .crLf then
    .place [(.any, .oneOfOrBorder (.ofText "D")), ((Side.oneOf (.ofText "D")).other, .oneOf (.ofText "A"))]
  else .place [(.any, .oneOfOrBorder (.ofText "A"))]

/-- The place that a name in braces stands for. -/
def namedPlace? (flags : Flags) (name : Text) : Option Pattern :=
  match String.ofList name with
  | "start" => some (wordStart flags)
  | "end" => some (wordStop flags)
  | "start-half" => some (.place [(flags.inWord.other, .any)])
  | "end-half" => some (.place [(.any, flags.inWord.other)])
  | _ => none

/-- The place that the text behind `\b` stands for. A brace holds the name of a place when a letter or a dash
    follows it, else it is the start of a repetition. -/
def borderPlace? (flags : Flags) (t : Text) : Option (Atom × Text) :=
  let isNameChar := fun (c : Char) => c.isAlpha || c == '-'
  match t with
  | '{' :: rest =>
    match flags.span isNameChar rest with
    | ([], []) => none
    | ([], _) => some (.place (wordBorder flags), t)
    | (name, '}' :: rest) => (namedPlace? flags name).map (.place ·, rest)
    | _ => none
  | _ => some (.place (wordBorder flags), t)

/-! ### Reading -/

/-- What the text behind a backslash stands for. -/
def escaped? (flags : Flags) : Text → Option (Atom × Text)
  | 'x' :: rest => hexChar? flags 2 rest
  | 'u' :: rest => hexChar? flags 4 rest
  | 'U' :: rest => hexChar? flags 8 rest
  | 'p' :: rest => property? flags false rest
  | 'P' :: rest => property? flags true rest
  | 'A' :: rest => some (.place textStart, rest)
  | 'z' :: rest => some (.place textStop, rest)
  | '<' :: rest => some (.place (wordStart flags), rest)
  | '>' :: rest => some (.place (wordStop flags), rest)
  | 'B' :: rest => some (.place (noWordBorder flags), rest)
  | 'b' :: rest => borderPlace? flags rest
  | c :: rest =>
    ((letterClass? flags c).map fun s => (.set s, rest)).or ((escapedChar? c).map fun c => (.char c false, rest))
  | [] => none

/-- The set of a character, as one of several in a set or as the only one. Without the flag that goes beyond ASCII
    a set holds nothing else, and no byte outside ASCII is a character. -/
def charSet? (flags : Flags) (alone : Bool) (c : Char) (byte : Bool) : Option CharSet :=
  if flags.contains .unicode || c.toNat < 0x80 || (alone && !byte) then some (.single c.toNat) else none

end Pattern
end WikiArticle
