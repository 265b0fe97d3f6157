import WikiArticle.Text.Blank
import WikiArticle.Text.CaseFolding
import WikiArticle.Text.Lines

/-! Flags, which change how the signs of a written pattern are meant. One of them allows blanks and comments
    between the signs. -/

namespace WikiArticle
namespace Pattern

/-- What changes how signs are meant. -/
inductive Flag where
  /-- Letters count as equal in any case. -/
  | anyCase
  /-- `^` and `$` stand at the ends of lines. -/
  | lines
  /-- `.` is also a line feed. -/
  | dotAll
  /-- Lines end at a carriage return too. -/
  | crLf
  /-- Repetitions prefer to be short, which has no effect on where a pattern occurs. -/
  | short
  /-- Classes and letter case go beyond ASCII. -/
  | unicode
  /-- Blanks and comments between signs have no meaning. -/
  | spaced
  deriving DecidableEq, Repr

/-- The flags that are on. -/
abbrev Flags := List Flag

/-- Changes of flags: each flag with whether it is on from there. -/
abbrev FlagChanges := List (Flag × Bool)

namespace Flags

/-- The flags at the start of a pattern. -/
def initial : Flags := [.unicode]

/-- The flags that are on after some changes. -/
def after (flags : Flags) (changes : FlagChanges) : Flags :=
  changes.foldl (fun fs c => if c.2 then c.1 :: fs else fs.filter (· != c.1)) flags

end Flags

/-! ### Letters -/

/-- The flag of a letter. -/
def flag? : Char → Option Flag
  | 'i' => some .anyCase
  | 'm' => some .lines
  | 's' => some .dotAll
  | 'R' => some .crLf
  | 'U' => some .short
  | 'u' => some .unicode
  | 'x' => some .spaced
  | _ => none

/-- The changes that letters make, those behind a dash turning flags off. No letter occurs twice. -/
def flagChanges? (letters : Text) : Option FlagChanges :=
  let changes := fun (on : Bool) (letters : Text) => letters.mapM fun c => (flag? c).map (·, on)
  match Text.pieces '-' letters with
  | [on] => if on.Nodup then changes true on else none
  | [on, off] =>
    if (on ++ off).Nodup && !off.isEmpty then do some ((← changes true on) ++ (← changes false off)) else none
  | _ => none

/-! ### Blanks and comments -/

/-- Collects the characters of a kind up to the first other one. If blanks and comments have no meaning they are
    passed over, a comment being everything from a `#` to the end of the line. -/
def collect (spaced : Bool) (kind : Char → Bool) (inComment : Bool) : Text → Text × Text
  | [] => ([], [])
  | c :: rest =>
    if inComment then collect spaced kind (c != '\n') rest
    else if spaced && (Text.isBlank c || c == '#') then collect spaced kind (c == '#') rest
    else if kind c then
      let (cs, rest) := collect spaced kind false rest
      (c :: cs, rest)
    else ([], c :: rest)

/-- The characters of a kind that a text begins with, and the rest of the text. -/
def Flags.span (flags : Flags) (kind : Char → Bool) (t : Text) : Text × Text :=
  collect (flags.contains .spaced) kind false t

/-- The text from its next sign on. -/
def Flags.next (flags : Flags) (t : Text) : Text := (flags.span (fun _ => false) t).2

/-- The first sign of a text, as far as blanks show it: one `#` and the blanks behind it are passed over too. -/
def Flags.peek? (flags : Flags) (t : Text) : Option Char :=
  if flags.contains .spaced then
    match t.dropWhile Text.isBlank with
    | '#' :: rest => (rest.dropWhile Text.isBlank).head?
    | t => t.head?
  else t.head?

/-! ### Sets under flags -/

/-- A set with everything that counts as equal to something in it. -/
def Flags.folded (flags : Flags) (s : CharSet) : CharSet :=
  if flags.contains .anyCase then
    (if flags.contains .unicode then CaseFolding.full else CaseFolding.ascii).close s
  else s

/-- A set that may be used: without the flag that goes beyond ASCII it holds nothing else. -/
def Flags.allowed? (flags : Flags) (s : CharSet) : Option CharSet :=
  if flags.contains .unicode || s \ .ascii = .empty then some s else none

/-- What is meant by a set, or by what it does not hold. -/
def Flags.meant? (flags : Flags) (negated : Bool) (s : CharSet) : Option CharSet :=
  let s := flags.folded s
  flags.allowed? (if negated then s.complement else s)

end Pattern
end WikiArticle
