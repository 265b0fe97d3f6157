import WikiArticle.Line.Marked
import WikiArticle.Line.Picture
import WikiArticle.Line.Row

/-! What a line of wiki text is, judged by the line alone. A line that is both a comment and an item of an
    ordered list is a comment; no other two kinds overlap. -/

namespace WikiArticle

/-- What a line is, with the content that it carries besides its text. -/
inductive Line where
  | blank
  | comment
  | fence (side : Fence)
  | heading (level : Nat) (title : Text)
  | row
  | picture (url : Text)
  | item (kind : ListKind) (text : Text)
  | prose
  deriving DecidableEq, Repr

namespace Line

/-- What the line `t` is. -/
def ofText (t : Text) : Line :=
  if Text.isAllBlank t then .blank
  else if isComment t then .comment
  else if let some side := Fence.ofText? t then .fence side
  else if let some h := Heading.ofText? t then .heading h.level h.title
  else if Row.isRow t then .row
  else if let some url := Picture.url? t then .picture url
  else if let some i := Item.ofText? t then .item i.kind i.text
  else .prose

end Line
end WikiArticle
