import WikiArticle.Text.Blank

/-! Lines known by a mark at their start or at both ends: headings, list items, fences and comments. Each
    is recognised on the line as it stands; only the title or text inside is trimmed. -/

namespace WikiArticle

/-! ### Headings -/

/-- A heading: its level, counted from one, and its title. -/
structure Heading where
  level : Nat
  title : Text
  deriving DecidableEq, Repr

namespace Heading

/-- The characters that stand before and behind a title of the level. -/
def marks (level : Nat) : Text := List.replicate level '='

/-- The text between the marks of a level, if the line begins and ends with them, the two groups do not
    overlap and no line feed stands between them. -/
def between? (level : Nat) (t : Text) : Option Text :=
  let inner := (t.drop level).take (t.length - 2 * level)
  if 2 * level ≤ t.length && (marks level).isPrefixOf t && (marks level).isSuffixOf t && !inner.contains '\n' then
    some inner
  else none

/-- The levels that are tried, the deepest first. -/
def levels : List Nat := [3, 2, 1]

/-- The heading that a line is, of the deepest level that its marks allow. -/
def ofText? (t : Text) : Option Heading :=
  levels.findSome? fun level => (between? level t).map fun inner => ⟨level, Text.trim inner⟩

end Heading

/-! ### List items -/

/-- Whether the items of a list are numbered. -/
inductive ListKind where
  | itemized
  | ordered
  deriving DecidableEq, Repr

/-- The character that marks an item of a list. -/
def ListKind.mark : ListKind → Char
  | .itemized => '*'
  | .ordered => '#'

/-- An item of a list: the kind of the list and the text of the item. -/
structure Item where
  kind : ListKind
  text : Text
  deriving DecidableEq, Repr

namespace Item

/-- The item text of a line of one kind: white space, the mark, a space, and text on a single line. -/
def text? (kind : ListKind) (t : Text) : Option Text :=
  match Text.trimStart t with
  | m :: ' ' :: rest => if m == kind.mark && !rest.contains '\n' then some (Text.trim rest) else none
  | _ => none

/-- The list item that a line is. -/
def ofText? (t : Text) : Option Item :=
  [ListKind.itemized, ListKind.ordered].findSome? fun kind => (text? kind t).map fun text => ⟨kind, text⟩

end Item

/-! ### Fences and comments -/

/-- A line that begins or ends a literal block. -/
inductive Fence where
  | opening
  | closing
  deriving DecidableEq, Repr

namespace Fence

/-- The line that a fence is. -/
def text : Fence → Text
  | .opening => ['{', '{', '{']
  | .closing => ['}', '}', '}']

/-- The fence that a line is. -/
def ofText? (t : Text) : Option Fence :=
  if t = opening.text then some .opening else if t = closing.text then some .closing else none

/-- Whether a line ends the literal block it stands in. -/
def closes (t : Text) : Bool := t = closing.text

end Fence

/-- Whether a line is a comment. -/
def isComment (t : Text) : Bool := t.head? == some '#'

end WikiArticle
