import WikiArticle.Text.CharSet
import WikiArticle.Text.CodePoint
import WikiArticle.Text.Lines

/-! Properties of characters as they are written down: a set of characters by its code points and ranges, a
    property with many values by the lengths of its runs, and the names of values by lists. -/

namespace WikiArticle
namespace Property

/-- The words of a text, which blanks and line ends separate. -/
def words (t : Text) : List Text :=
  ((Text.pieces '\n' t).flatMap (Text.pieces ' ')).filter (!·.isEmpty)

/-! ### Sets -/

/-- The range that a word writes: two code points in hexadecimal digits with a dash between them, or one. -/
def range? (word : Text) : Option (Nat × Nat) :=
  match (Text.pieces '-' word).mapM Text.hexNumber? with
  | some [n] => some (n, n)
  | some [first, last] => some (first, last)
  | _ => none

end Property

/-- The set that a text writes, as ranges in increasing order. -/
def CharSet.ofText (s : String) : CharSet := .ofRanges ((Property.words s.toList).filterMap Property.range?)

namespace Property

/-! ### Values -/

/-- A property that has a value for every code point: the lengths of its runs, each with the value of the run. -/
abbrev Table := List (Nat × String)

/-- The table that a text writes, as words of a number and a value. -/
def Table.ofText (s : String) : Table :=
  (words s.toList).map fun w => (Text.decimal (w.takeWhile (·.isDigit)), String.ofList (w.dropWhile (·.isDigit)))

/-- The code points with a value that passes a test. -/
def Table.having (table : Table) (test : String → Bool) : CharSet :=
  table.foldr (fun (length, value) s => .lead (test value) length s) .empty

/-! ### Names -/

/-- The names of some values, the key of each value first. -/
abbrev NameList := List (List Text)

/-- The names that a text writes, with commas between those of different values. -/
def NameList.ofText (s : String) : NameList := (Text.pieces ',' s.toList).map words

/-- What of a name counts when it is looked up: neither the case of its letters, nor blanks, dashes and low
    lines, nor characters outside ASCII, nor `is` at its start unless just a `c` would be left. -/
def keyName (name : Text) : Text :=
  let kept := fun (t : Text) =>
    (t.filter fun c => c.toNat < 0x80 && c != ' ' && c != '_' && c != '-').map Char.toLower
  if (name.take 2).map Char.toLower = ['i', 's'] then
    let rest := kept (name.drop 2)
    if rest = ['c'] then ['i', 's', 'c'] else rest
  else kept name

/-- The key of the value that a name stands for. -/
def NameList.key? (names : NameList) (name : Text) : Option String :=
  (names.find? fun entry => entry.any fun n => keyName n = name).map fun entry => String.ofList (entry.headD [])

end Property
end WikiArticle
