import WikiArticle.Body.Layout
import WikiArticle.Inline
import WikiArticle.Line.Marked

/-! The parts that the body of an article is written in. A fragment says what is written, in source text
    and element structure; `pieces` says how, with the markup of the source as elements. -/

namespace WikiArticle

/-! ### Elements -/

/-- A block that holds the lines of one run: a paragraph or a list. -/
inductive Container where
  | paragraph
  | list (kind : ListKind)
  deriving DecidableEq, Repr

/-- The element name of a container. -/
def Container.name : Container → Text
  | .paragraph => "para".toList
  | .list .itemized => "itemizedlist".toList
  | .list .ordered => "orderedlist".toList

/-- A number in decimal digits. -/
def decimal (n : Nat) : Text := Nat.toDigits 10 n

/-- The element name of a section of a level. -/
def sectionName (level : Nat) : Text := "sect".toList ++ decimal level

/-- The tag that starts an element. -/
def startTag (name : Text) : Text := ['<'] ++ name ++ ['>']

/-- The tag that ends an element. -/
def endTag (name : Text) : Text := ['<', '/'] ++ name ++ ['>']

/-! ### Fragments -/

/-- A part of the body. -/
inductive Fragment where
  /-- A section of the level begins. -/
  | sectionStart (level : Nat)
  /-- The section of the level ends. -/
  | sectionEnd (level : Nat)
  /-- The section of the level ends, and the next one of the level follows on the same line. -/
  | sectionTurn (level : Nat)
  /-- The title of the section that has begun. -/
  | title (source : Text)
  /-- A paragraph or a list begins. -/
  | containerStart (kind : Container)
  /-- A paragraph or a list ends. -/
  | containerEnd (kind : Container)
  /-- A line of a paragraph. -/
  | paragraphLine (source : Text)
  /-- An item of a list. -/
  | item (source : Text)
  /-- A picture. -/
  | graphic (fileref : Text)
  /-- A table of so many columns begins. -/
  | tableStart (columns : Nat)
  /-- A row of a table. -/
  | row (cells : List Text)
  /-- A table ends. -/
  | tableEnd
  /-- A literal block begins. -/
  | screenStart
  /-- A line of a literal block. -/
  | screenLine (source : Text)
  /-- A literal block ends. -/
  | screenEnd
  deriving DecidableEq, Repr

namespace Fragment

/-- A cell of a row, as an element. -/
def entry (cell : Text) : Text := "<entry>".toList ++ Inline.markUp cell ++ "</entry>".toList

/-- The pieces that a fragment is written in. -/
def pieces : Fragment → List Piece
  | sectionStart level => [.joined (WikiArticle.startTag (sectionName level))]
  | sectionEnd level => [.line (WikiArticle.endTag (sectionName level))]
  | sectionTurn level => [.joined (WikiArticle.endTag (sectionName level))]
  | title source => [.line ("<title>".toList ++ Inline.markUp source ++ "</title>".toList)]
  | containerStart kind => [.joined (WikiArticle.startTag kind.name)]
  | containerEnd kind => [.line (WikiArticle.endTag kind.name)]
  | paragraphLine source => [.line (Inline.markUp source)]
  | item source => [.line ("<listitem><para>".toList ++ Inline.markUp source ++ "</para></listitem>".toList)]
  | graphic fileref => [.line ("<graphic fileref=\"".toList ++ Inline.escape fileref ++ "\"></graphic>".toList)]
  | tableStart columns =>
    [.joined "<table frame='all'><title></title>".toList,
      .joined ("<tgroup cols='".toList ++ decimal columns ++ "' align='left' colsep='1' rowsep='1'>".toList),
      .line "<tbody>".toList]
  | row cells => .joined "<row>".toList :: cells.map (fun c => .joined (entry c)) ++ [.line "</row>".toList]
  | tableEnd => [.line "</tbody></tgroup></table>".toList]
  | screenStart => [.line "<screen>".toList]
  | screenLine source => [.line (Inline.escape source)]
  | screenEnd => [.line "</screen>".toList]

/-- The text of fragments in order. -/
def textOf (fs : List Fragment) : Text := Piece.textOf (fs.flatMap pieces)

@[simp] theorem textOf_nil : textOf [] = [] := rfl

@[simp] theorem textOf_append (fs gs : List Fragment) : textOf (fs ++ gs) = textOf fs ++ textOf gs := by
  simp [textOf]

end Fragment
end WikiArticle
