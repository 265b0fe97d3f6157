import WikiArticle.Body.Fragment
import WikiArticle.Line.Row

/-! What is open at a place in the body: sections down to a depth, and in them a container, a table or a
    literal block. A step leads from one context to the next and writes fragments; the moves here open and
    close one kind of thing each, and look at no other kind unless they say so. -/

namespace WikiArticle

/-- What is open at a place in the body. -/
structure Context where
  /-- The number of sections that are open, each inside the one before. -/
  depth : Nat
  /-- The paragraph or list that is open. -/
  container : Option Container
  /-- Whether a literal block is open. -/
  inLiteral : Bool
  /-- The number of columns of the table that is open, zero if none is. -/
  columns : Nat
  deriving DecidableEq, Repr

namespace Context

/-- Nothing is open. -/
def settled : Context := ⟨0, none, false, 0⟩

/-- Whether nothing is open. -/
def isSettled (c : Context) : Bool := c == settled

/-- Whether a table is open. -/
def inTable (c : Context) : Bool := 0 < c.columns

end Context

/-! ### Steps -/

/-- Where a step leads, and what it writes on the way. -/
structure Step where
  context : Context
  written : List Fragment
  deriving DecidableEq, Repr

namespace Step

/-- The step that changes nothing and writes nothing. -/
def stay (c : Context) : Step := ⟨c, []⟩

/-- The step that goes on with `next` from where `s` leads. -/
def andThen (s : Step) (next : Context → Step) : Step :=
  let t := next s.context
  ⟨t.context, s.written ++ t.written⟩

@[simp] theorem context_andThen (s : Step) (next : Context → Step) :
    (s.andThen next).context = (next s.context).context := rfl

@[simp] theorem written_andThen (s : Step) (next : Context → Step) :
    (s.andThen next).written = s.written ++ (next s.context).written := rfl

theorem stay_andThen (c : Context) (next : Context → Step) : (stay c).andThen next = next c := rfl

theorem andThen_stay (s : Step) : s.andThen stay = s := by
  simp [andThen, stay]

theorem andThen_assoc (s : Step) (f g : Context → Step) :
    (s.andThen f).andThen g = s.andThen fun c => (f c).andThen g := by
  simp [andThen]

/-- What comes next matters only where the step leads. -/
theorem andThen_congr {s : Step} {f g : Context → Step} (h : f s.context = g s.context) :
    s.andThen f = s.andThen g := by
  simp only [andThen, h]

end Step

namespace Context

/-! ### Containers -/

/-- Leaves the open container, if it is another, and enters `kind`. -/
def setContainer (kind : Option Container) (c : Context) : Step :=
  if c.container = kind then .stay c
  else ⟨{ c with container := kind },
    c.container.toList.map .containerEnd ++ kind.toList.map .containerStart⟩

/-! ### Sections -/

/-- The levels deeper than `a` down to `b`, from the outermost to the innermost. -/
def levelsBetween (a b : Nat) : List Nat := List.range' (a + 1) (b - a)

/-- Ends the sections deeper than `level`, the innermost first. -/
def closeDeeper (level : Nat) (c : Context) : Step :=
  ⟨{ c with depth := min c.depth level }, (levelsBetween level c.depth).reverse.map .sectionEnd⟩

/-- Ends the section of `level`, if it is the innermost, to make place for the next of its level. -/
def turnSection (level : Nat) (c : Context) : Step :=
  if c.depth = level then ⟨{ c with depth := level - 1 }, [.sectionTurn level]⟩ else .stay c

/-- Begins the sections from the open ones down to `level`. -/
def openDown (level : Nat) (c : Context) : Step :=
  ⟨{ c with depth := max c.depth level }, (levelsBetween c.depth level).map .sectionStart⟩

/-- Begins a section of `level` with a title, in place of all that its level ends. Level zero ends every
    section and begins none. -/
def openSection (level : Nat) (title : Text) (c : Context) : Step :=
  let cleared := (c.setContainer none).andThen (closeDeeper level)
  if level = 0 then cleared
  else ((cleared.andThen (turnSection level)).andThen (openDown level)).andThen fun c => ⟨c, [.title title]⟩

/-- Ends the container and every section. -/
def closeAll (c : Context) : Step := (c.setContainer none).andThen (closeDeeper 0)

/-! ### Tables and literal blocks -/

/-- Writes a row of the open table. -/
def addRow (line : Text) (c : Context) : Step := ⟨c, [.row (Row.cells c.columns line)]⟩

/-- Begins the table that a row is the first of. -/
def openTable (line : Text) (c : Context) : Step :=
  (c.setContainer none).andThen fun c =>
    let columns := Row.columns line
    Step.andThen ⟨{ c with columns := columns }, [.tableStart columns]⟩ (addRow line)

/-- Ends the table. -/
def closeTable (c : Context) : Step := ⟨{ c with columns := 0 }, [.tableEnd]⟩

/-- Begins a literal block. -/
def openLiteral (c : Context) : Step :=
  (c.setContainer none).andThen fun c => ⟨{ c with inLiteral := true }, [.screenStart]⟩

/-- Ends the literal block. -/
def closeLiteral (c : Context) : Step := ⟨{ c with inLiteral := false }, [.screenEnd]⟩

/-- Takes a line of the open literal block. -/
def literalLine (line : Text) (c : Context) : Step :=
  if Fence.closes line then c.closeLiteral else ⟨c, [.screenLine line]⟩

end Context
end WikiArticle
