import WikiArticle.Config.Toml
import WikiArticle.Environment
import WikiArticle.Files

/-! The configuration file, which can give the language of articles and the base url of pictures. A file
    that is not there gives nothing; one that cannot be read or understood is an error. -/

namespace WikiArticle

/-- What a configuration file sets. -/
structure Config where
  language : Option Text
  imageBase : Option Text
  deriving DecidableEq, Repr

/-- Why a configuration file gives no configuration. -/
inductive ConfigError where
  /-- The file cannot be read, for the reason given. -/
  | unreadable (path reason : String)
  /-- The file is no list of known settings. -/
  | malformed (path : String)
  deriving DecidableEq, Repr

namespace ConfigError

/-- The wording of an error. -/
def message : ConfigError → String
  | unreadable path reason => "Failed to read config file at " ++ path ++ ": " ++ reason
  | malformed path => "Failed to parse config file at " ++ path

/-- The reason that an error names, if it names one apart from itself. -/
def cause? : ConfigError → Option String
  | unreadable _ reason => some reason
  | malformed _ => none

end ConfigError

namespace Config

/-- Nothing is set. -/
def empty : Config := ⟨none, none⟩

/-- Adds a setting. It must be known and not be set already. -/
def set (c : Config) (key value : Text) : Option Config :=
  if key = "language".toList then
    if c.language.isNone then some { c with language := some value } else none
  else if key = "image_base_url".toList then
    if c.imageBase.isNone then some { c with imageBase := some value } else none
  else none

/-- The configuration that the text of a file gives. -/
def parse? (t : Text) : Option Config :=
  (Toml.entries? t).bind fun kvs => kvs.foldlM (fun c kv => c.set kv.1 kv.2) empty

/-- Reads the configuration file at a path; `none` if nothing is there. -/
def load (files : Files) (path : String) : Except ConfigError (Option Config) :=
  match files.read path with
  | .error (.notFound _) => .ok none
  | .error (.unreadable path reason) => .error (.unreadable path reason)
  | .ok s =>
    match parse? s.toList with
    | some c => .ok (some c)
    | none => .error (.malformed path)

/-- The path of the configuration file that is read when none is named. -/
def defaultPath (env : Environment) (home : Option String := env.home?) : String :=
  String.ofList (Environment.expandHome home "~/.config/wiki-docbook".toList) ++ "/config.toml"

end Config
end WikiArticle
