import WikiArticle.Text.Blank

/-! How the written text is laid out in lines. A piece either ends its line or is followed by a space, so
    that the next piece joins its line. -/

namespace WikiArticle

/-- A piece of written text. -/
inductive Piece where
  /-- The next piece joins the line. -/
  | joined (t : Text)
  /-- The piece ends its line. -/
  | line (t : Text)
  deriving DecidableEq, Repr

namespace Piece

/-- An empty line. -/
def blank : Piece := line []

/-- The characters of a piece. -/
def text : Piece → Text
  | joined t => t ++ [' ']
  | line t => t ++ ['\n']

/-- The characters of pieces in order. -/
def textOf (ps : List Piece) : Text := ps.flatMap text

@[simp] theorem textOf_nil : textOf [] = [] := rfl

@[simp] theorem textOf_cons (p : Piece) (ps : List Piece) : textOf (p :: ps) = p.text ++ textOf ps := rfl

@[simp] theorem textOf_append (ps qs : List Piece) : textOf (ps ++ qs) = textOf ps ++ textOf qs :=
  List.flatMap_append

end Piece
end WikiArticle
