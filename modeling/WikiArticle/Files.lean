import WikiArticle.Text.Blank

/-! Reading text files. What a path leads to is given as an entry; a file is read whole and must be
    UTF-8. A byte order mark is part of the text. -/

namespace WikiArticle

/-- What a path leads to. -/
inductive Entry where
  /-- Nothing is there. -/
  | missing
  /-- Something is there that cannot be read, for the reason given. -/
  | unreadable (reason : String)
  /-- A file with its bytes. -/
  | file (content : ByteArray)

namespace Entry

/-- A directory: it is there, and it cannot be read as a file. -/
def directory : Entry := .unreadable "Is a directory (os error 21)"

end Entry

/-- A view of the files: what each path leads to. -/
abbrev Files := String → Entry

/-- Why a text could not be read. -/
inductive ReadError where
  /-- Nothing is at the path. -/
  | notFound (path : String)
  /-- What is at the path cannot be read as text, for the reason given. -/
  | unreadable (path reason : String)
  deriving DecidableEq, Repr

namespace ReadError

/-- The wording of an error. -/
def message : ReadError → String
  | notFound path => "File not found: " ++ path
  | unreadable path reason => "Failed to read " ++ path ++ ": " ++ reason

/-- The reason that an error names, if it names one apart from itself. -/
def cause? : ReadError → Option String
  | notFound _ => none
  | unreadable _ reason => some reason

end ReadError

namespace Files

/-- The reason for which a file that is no UTF-8 cannot be read. -/
def notUtf8 : String := "stream did not contain valid UTF-8"

/-- The text of an entry, or why it has none. -/
def textOf (path : String) : Entry → Except ReadError String
  | .missing => .error (.notFound path)
  | .unreadable reason => .error (.unreadable path reason)
  | .file content =>
    match String.fromUTF8? content with
    | some s => .ok s
    | none => .error (.unreadable path notUtf8)

/-- The text of the file at a path. -/
def read (files : Files) (path : String) : Except ReadError String := textOf path (files path)

end Files
end WikiArticle
