import WikiArticle.Body.Context
import WikiArticle.Line

/-! The body of an article, line by line. A line inside a literal block is taken as it is; any other line
    is judged by itself, ends the open table unless it is a row or a comment, and is then written into
    the container that its kind asks for. What is open when the lines end is closed, with a warning for
    a block that the source never ended. -/

namespace WikiArticle
namespace Context

/-! ### One line -/

/-- Writes the fragment into a container of the kind. -/
def writeIn (kind : Container) (f : Fragment) (c : Context) : Step :=
  (c.setContainer (some kind)).andThen fun c => ⟨c, [f]⟩

/-- Writes the fragment outside any container. -/
def writeAlone (f : Fragment) (c : Context) : Step :=
  (c.setContainer none).andThen fun c => ⟨c, [f]⟩

/-- Takes a line that stands neither in a literal block nor in a table. -/
def plainLine (base : Option Text) (line : Text) (c : Context) : Step :=
  match Line.ofText line with
  | .blank => c.setContainer none
  | .comment => .stay c
  | .fence .opening => c.openLiteral
  | .heading level title => c.openSection level title
  | .row => c.openTable line
  | .picture url => c.writeAlone (.graphic (Picture.fileref base url))
  | .item kind text => c.writeIn (.list kind) (.item text)
  | .fence .closing | .prose => c.writeIn .paragraph (.paragraphLine line)

/-- Takes a line behind a row of a table: the table goes on with rows and comments, and ends before any
    other line. -/
def tableLine (base : Option Text) (line : Text) (c : Context) : Step :=
  match Line.ofText line with
  | .row => c.addRow line
  | .comment => .stay c
  | _ => c.closeTable.andThen (plainLine base line)

/-- Takes the next line of the source, where pictures under the url `base` are attachments. -/
def push (base : Option Text) (line : Text) (c : Context) : Step :=
  let line := Text.trimEnd line
  if c.inLiteral then c.literalLine line
  else if c.inTable then c.tableLine base line
  else c.plainLine base line

end Context

/-! ### Many steps -/

/-- What can be asked of a body that is being written. -/
inductive Action where
  /-- Take the next line of the source. -/
  | push (line : Text)
  /-- Begin a section. -/
  | openSection (level : Nat) (title : Text)
  /-- Enter a container, or leave the open one. -/
  | setContainer (kind : Option Container)
  /-- End the container and every section. -/
  | closeAll
  deriving DecidableEq, Repr

/-- The step that an action takes. -/
def Action.step (base : Option Text) : Action → Context → Step
  | push line => Context.push base line
  | openSection level title => Context.openSection level title
  | setContainer kind => Context.setContainer kind
  | closeAll => Context.closeAll

namespace Body

/-- The step that a sequence of actions takes together. -/
def run (base : Option Text) : List Action → Context → Step
  | [], c => .stay c
  | a :: as, c => (a.step base c).andThen (run base as)

/-- The step that a sequence of lines takes together. -/
def pushAll (base : Option Text) (lines : List Text) : Context → Step := run base (lines.map .push)

/-! ### The end -/

/-- Something about the source that a reader should know. -/
inductive Warning where
  | unclosedLiteral
  | unclosedTable
  deriving DecidableEq, Repr

/-- The wording of a warning. -/
def Warning.message : Warning → String
  | unclosedLiteral => "input ended inside a literal block; closing it"
  | unclosedTable => "input ended inside a table; closing it"

/-- The warnings for what the source left open. -/
def warnings (c : Context) : List Warning :=
  (if c.inLiteral then [.unclosedLiteral] else []) ++ (if c.inTable then [.unclosedTable] else [])

/-- Closes what is open when the source ends. -/
def finish (c : Context) : Step :=
  ((if c.inLiteral then c.closeLiteral else .stay c).andThen
    fun c => if c.inTable then c.closeTable else .stay c).andThen Context.closeAll

/-- The fragments of the body that the lines make. -/
def fragments (base : Option Text) (lines : List Text) : List Fragment :=
  ((pushAll base lines .settled).andThen finish).written

/-- The text of the body that the lines make. -/
def ofLines (base : Option Text) (lines : List Text) : Text := Fragment.textOf (fragments base lines)

/-- The warnings about the lines. -/
def warningsOfLines (base : Option Text) (lines : List Text) : List Warning :=
  warnings (pushAll base lines .settled).context

theorem run_append (base : Option Text) (as bs : List Action) (c : Context) :
    run base (as ++ bs) c = (run base as c).andThen (run base bs) := by
  induction as generalizing c with
  | nil => rfl
  | cons a as ih => simp only [List.cons_append, run, Step.andThen, ih, List.append_assoc]

theorem pushAll_append (base : Option Text) (as bs : List Text) (c : Context) :
    pushAll base (as ++ bs) c = (pushAll base as c).andThen (pushAll base bs) := by
  rw [pushAll, List.map_append, run_append]
  rfl

theorem pushAll_cons (base : Option Text) (line : Text) (lines : List Text) (c : Context) :
    pushAll base (line :: lines) c = (c.push base line).andThen (pushAll base lines) := rfl

end Body
end WikiArticle
