import WikiArticle.Body
import WikiArticle.Files
import WikiArticle.Text.Lines

/-! Articles. An article is the body that its sources make together, between a prologue that names the
    document type and the language, and the tag that ends the root element. The lines of all sources
    follow each other in one body, so that a section, list, table or literal block goes on across the
    end of a source. -/

namespace WikiArticle

/-- The options of a conversion. -/
structure Options where
  /-- The language of the article. -/
  language : Text
  /-- The url under which the pictures of the wiki are found. -/
  imageBase : Option Text
  deriving DecidableEq, Repr

/-- No language and no base url. -/
def Options.default : Options := ⟨[], none⟩

/-- The result of a conversion: the article, and what to tell about its sources. -/
structure Conversion where
  document : Text
  warnings : List Body.Warning
  deriving DecidableEq, Repr

namespace Article

/-- The XML declaration and the document type. -/
def documentType : Text :=
  ("<?xml version=\"1.0\" encoding=\"UTF-8\"?>\n<!DOCTYPE article\n" ++
    "  PUBLIC \"-//OASIS//DTD DocBook XML V4.1.2//EN\"\n" ++
    "  \"http://www.oasis-open.org/docbook/xml/4.1.2/docbookx.dtd\">\n").toList

/-- What stands before the body. -/
def prologue (language : Text) : Text :=
  documentType ++ "<article lang=\"".toList ++ Inline.escape language ++ "\">\n".toList

/-- What stands behind the body. -/
def epilogue : Text := "</article>\n".toList

end Article

/-! ### An article in the making -/

/-- An article to which sources can still be added. -/
structure Draft where
  options : Options
  /-- What the last source left open. -/
  context : Context
  /-- The body so far. -/
  written : List Fragment
  deriving DecidableEq, Repr

namespace Draft

/-- An article without sources. -/
def empty (options : Options) : Draft := ⟨options, .settled, []⟩

/-- Adds the lines of a source. -/
def addSource (source : Text) (d : Draft) : Draft :=
  let s := Body.pushAll d.options.imageBase (Text.lines source) d.context
  { d with context := s.context, written := d.written ++ s.written }

/-- Adds the source at a path. A source that cannot be read adds nothing. -/
def addFile (files : Files) (path : String) (d : Draft) : Except ReadError Draft :=
  (files.read path).map fun s => d.addSource s.toList

/-- The article of the sources added so far. -/
def finish (d : Draft) : Conversion where
  document := Article.prologue d.options.language
    ++ Fragment.textOf (d.written ++ (Body.finish d.context).written) ++ Article.epilogue
  warnings := Body.warnings d.context

end Draft

namespace Article

/-- The article of one source. -/
def ofText (options : Options) (source : Text) : Conversion := ((Draft.empty options).addSource source).finish

/-- The draft of the sources at the paths, or why the first one that cannot be read cannot. -/
def draftOfFiles (files : Files) : List String → Draft → Except ReadError Draft
  | [], d => .ok d
  | path :: paths, d => (d.addFile files path).bind (draftOfFiles files paths)

/-- The article of the sources at the paths in order, or why the first one that cannot be read cannot. -/
def ofFiles (options : Options) (files : Files) (paths : List String) : Except ReadError Conversion :=
  (draftOfFiles files paths (.empty options)).map Draft.finish

end Article
end WikiArticle
