import WikiArticle.Article
import WikiArticle.Command.Arguments
import WikiArticle.Command.Log
import WikiArticle.Config

/-! A run of the command: from its arguments, the environment, the files and the home directory to what it
    prints and its exit status. A run prints a whole article or nothing. Options on the command line win
    over the configuration file, which wins over the defaults; the file is read before any page. -/

namespace WikiArticle
namespace Command

/-- What a run shows. -/
structure Outcome where
  /-- The exit status. -/
  code : Nat
  /-- What is printed. -/
  stdout : String
  /-- The warnings that are shown, in order. -/
  warnings : List Log.Message
  /-- The message of the failure, if the run fails. -/
  failure : Option String
  deriving DecidableEq, Repr

/-- The name of the command with its version. -/
def versionText : String := "gwiki2docbook 0.1.0\n"

/-- The lines of the help. -/
def helpLines : List String :=
  ["Convert Google Code wiki pages to DocBook format",
    "",
    "Usage: gwiki2docbook [OPTIONS] <PAGE>...",
    "",
    "Arguments:",
    "  <PAGE>...  Wiki pages, concatenated into one article in the given order",
    "",
    "Options:",
    "  -l, --language <LANGUAGE>  Document language: en, ru, etc",
    "  -v, --verbose              Verbose mode",
    "  -b, --base-url <URL>       Rewrite images under this URL to local `file:./` references",
    "  -c, --config <PATH>        Configuration file [default: ~/.config/wiki-docbook/config.toml]",
    "  -h, --help                 Print help",
    "  -V, --version              Print version"]

/-- The help. -/
def helpText : String := String.join (helpLines.map (· ++ "\n"))

/-! ### Configuration -/

/-- The path of the configuration file: the one that is asked for, with its references replaced if they
    can be, or the default one. -/
def configPath (env : Environment) (a : Arguments) (home : Option String) : String :=
  match a.config with
  | some path => (Environment.expandPath? env path home).getD path
  | none => Config.defaultPath env home

/-- The warning that the configuration file which is asked for is not there. -/
def missingConfig (path : String) : Log.Message :=
  ⟨.command, "config file " ++ path ++ " not found, using defaults"⟩

/-- A warning about the source of the article. -/
def bodyWarning (w : Body.Warning) : Log.Message := ⟨.body, w.message⟩

/-- The options of the conversion. -/
def options (a : Arguments) (c : Config) : Options where
  language := ((a.language.map String.toList).or c.language).getD Options.default.language
  imageBase := ((a.baseUrl.map String.toList).or c.imageBase).or Options.default.imageBase

/-! ### Failures -/

/-- A message, and the reason behind it if it names one. -/
def withCause (message : String) (cause : Option String) : String :=
  match cause with
  | some reason => message ++ ": " ++ reason
  | none => message

/-- The message of a run that fails in its configuration. -/
def configFailure (e : ConfigError) : String := withCause ("Error: " ++ e.message) e.cause?

/-- The message of a run that fails in its pages. -/
def pageFailure (e : ReadError) : String :=
  withCause ("Error: Failed to convert wiki pages: " ++ e.message) e.cause?

/-! ### Runs -/

/-- Converts the pages. -/
def convert (env : Environment) (files : Files) (a : Arguments) (home : Option String) : Outcome :=
  let path := configPath env a home
  match Config.load files path with
  | .error e => ⟨1, "", [], some (configFailure e)⟩
  | .ok found =>
    let early := if a.config.isSome && found.isNone then [missingConfig path] else []
    match Article.ofFiles (options a (found.getD .empty)) files a.pages with
    | .error e => ⟨1, "", Log.shown env early, some (pageFailure e)⟩
    | .ok conversion =>
      let warnings := early ++ conversion.warnings.map bodyWarning
      ⟨0, String.ofList conversion.document, Log.shown env warnings, none⟩

/-- The outcome when the arguments end their reading early. -/
def stopped : Arguments.Stop → Outcome
  | .help => ⟨0, helpText, [], none⟩
  | .version => ⟨0, versionText, [], none⟩
  | .usage e => ⟨2, "", [], some ("error: " ++ e.message)⟩

/-- Runs the command. -/
def run (env : Environment) (files : Files) (args : List String) (home : Option String := env.home?) : Outcome :=
  match Arguments.parse args with
  | .ok a => convert env files a home
  | .error s => stopped s

/-! ### What a run looks at -/

/-- The environment variables that a run can look at. -/
def environmentNames (args : List String) : List String :=
  ["HOME", Log.filterName] ++
    match Arguments.parse args with
    | .ok a => (a.config.map fun path => Environment.mentioned path.toList).getD []
    | .error _ => []

/-- The paths that a run can look at. -/
def paths (env : Environment) (args : List String) (home : Option String := env.home?) : List String :=
  match Arguments.parse args with
  | .ok a => configPath env a home :: a.pages
  | .error _ => []

end Command
end WikiArticle
