import WikiArticle.Environment
import WikiArticle.Text.Lines
import WikiArticle.Text.Pattern.Spelling

/-! Which messages the command shows. Every message has a topic and a text. A filter in the environment
    holds directives with commas between them, and behind a slash a pattern that occurs in every text that
    is shown. A directive sets the level of the topics whose names begin with its own, or of all topics if
    it has no name; of those that concern a topic the one with the longest name counts. -/

namespace WikiArticle
namespace Log

/-! ### Levels -/

/-- How much is shown. -/
inductive Level where
  | off
  | error
  | warn
  | info
  | debug
  | trace
  deriving DecidableEq, Repr

/-- The level of a name, in letters of either case. -/
def Level.ofName? (name : Text) : Option Level :=
  match String.ofList (name.map Char.toLower) with
  | "off" => some .off
  | "error" => some .error
  | "warn" => some .warn
  | "info" => some .info
  | "debug" => some .debug
  | "trace" => some .trace
  | _ => none

/-- Whether warnings are shown at a level. -/
def Level.showsWarnings : Level → Bool
  | off | error => false
  | warn | info | debug | trace => true

/-! ### Messages -/

/-- The part of the program that a message is about. -/
inductive Topic where
  /-- The run of the command. -/
  | command
  /-- The body of the article. -/
  | body
  deriving DecidableEq, Repr

/-- The name of a topic, which filters and the log use. -/
def Topic.name : Topic → String
  | command => "gwiki2docbook"
  | body => "wiki_docbook_engine::converting::blocks::transducer"

/-- A warning of a run. -/
structure Message where
  topic : Topic
  text : String
  deriving DecidableEq, Repr

/-- The message as it stands in the log. -/
def Message.line (m : Message) : String := "[WARN " ++ m.topic.name ++ "] " ++ m.text

/-! ### Directives -/

/-- The level of some topics. -/
structure Directive where
  /-- What the names of the topics begin with; without it all topics are meant. -/
  name : Option Text
  level : Level
  deriving DecidableEq, Repr

namespace Directive

/-- The directive that a text writes. A level alone is for all topics, and a name alone shows all of its
    topics. -/
def ofText? (t : Text) : Option Directive :=
  match Text.pieces '=' t with
  | [single] =>
    match Level.ofName? single with
    | some level => some ⟨none, level⟩
    | none => some ⟨some single, .trace⟩
  | [name, level] =>
    if (Text.trim level).isEmpty then some ⟨some name, .trace⟩
    else (Level.ofName? (Text.trim level)).map (⟨some name, ·⟩)
  | _ => none

/-- Whether a directive concerns a topic. -/
def concerns (d : Directive) (topic : Topic) : Bool :=
  d.name.all fun name => name.isPrefixOf topic.name.toList

/-- The length of the name of a directive, in bytes. -/
def weight (d : Directive) : Nat := d.name.elim 0 fun name => (String.ofList name).utf8ByteSize

/-- The directives with one more. It takes the place of the one with the same name, if there is one. -/
def insert (ds : List Directive) (d : Directive) : List Directive :=
  if ds.any (·.name == d.name) then ds.map fun e => if e.name == d.name then d else e else ds ++ [d]

/-- The directive that counts for a topic: of those that concern it the one with the longest name, and of
    equally long names the last one. -/
def find? (ds : List Directive) (topic : Topic) : Option Directive :=
  (ds.filter (·.concerns topic)).foldl
    (fun best d => if best.any fun b => d.weight < b.weight then best else some d) none

end Directive

/-! ### Filters -/

/-- What a message has to be like to be shown. -/
structure Filter where
  directives : List Directive
  /-- What occurs in its text. -/
  pattern : Option Pattern
  deriving DecidableEq, Repr

namespace Filter

/-- Shows the messages of every topic up to a level. -/
def upTo (level : Level) : Filter := ⟨[⟨none, level⟩], none⟩

/-- The directives that a text writes between commas. Those that cannot be read are left out. -/
def directivesOf (t : Text) : List Directive :=
  (((Text.pieces ',' t).map Text.trim).filter (!·.isEmpty)).filterMap Directive.ofText?
    |>.foldl Directive.insert []

/-- The filter that a text writes. Without directives only errors are shown, and so they are when more than
    one slash makes the text unreadable. -/
def ofText (t : Text) : Filter :=
  let parts := Text.pieces '/' t
  let directives := if 2 < parts.length then [] else directivesOf (parts.headD [])
  { directives := if directives.isEmpty then (upTo .error).directives else directives
    pattern := if 2 < parts.length then none else parts[1]?.bind Pattern.ofText? }

/-- Whether a message is shown. -/
def shows (f : Filter) (m : Message) : Bool :=
  (Directive.find? f.directives m.topic).any (·.level.showsWarnings) &&
    f.pattern.all (·.occursIn m.text.toList)

end Filter

/-- The variable that holds a filter. -/
def filterName : String := "RUST_LOG"

/-- The filter of a run: the one in the environment, or one that shows warnings. -/
def filter (env : Environment) : Filter := (env filterName).elim (.upTo .warn) fun t => .ofText t.toList

/-- The messages that are shown. -/
def shown (env : Environment) (ms : List Message) : List Message := ms.filter (filter env).shows

end Log
end WikiArticle
