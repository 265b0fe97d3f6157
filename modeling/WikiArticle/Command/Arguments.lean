import WikiArticle.Text.Blank

/-! The arguments of the command. They are read from left to right, and the first one that asks for the
    help or the version, or that is wrong, decides. An argument that begins with a dash is an option, up
    to the argument `--`; a single dash is a page. Short options can be joined in one argument, and the
    value of an option stands in the same argument or is the next one. -/

namespace WikiArticle

/-- What the arguments ask for. -/
structure Arguments where
  /-- The paths of the pages, in order. -/
  pages : List String
  language : Option String
  baseUrl : Option String
  config : Option String
  verbose : Bool
  deriving DecidableEq, Repr

namespace Arguments

/-- No argument has been read. -/
def empty : Arguments := ⟨[], none, none, none, false⟩

/-! ### Options -/

/-- An option that takes a value. -/
inductive Setting where
  | language
  | baseUrl
  | config
  deriving DecidableEq, Repr

/-- An option, by what it does. -/
inductive Switch where
  | set (s : Setting)
  | verbose
  | help
  | version
  deriving DecidableEq, Repr

/-- The option with a short name. -/
def Switch.ofShort? : Char → Option Switch
  | 'l' => some (.set .language)
  | 'b' => some (.set .baseUrl)
  | 'c' => some (.set .config)
  | 'v' => some .verbose
  | 'h' => some .help
  | 'V' => some .version
  | _ => none

/-- The option with a long name. -/
def Switch.ofLong? (name : Text) : Option Switch :=
  match String.ofList name with
  | "language" => some (.set .language)
  | "base-url" => some (.set .baseUrl)
  | "config" => some (.set .config)
  | "verbose" => some .verbose
  | "help" => some .help
  | "version" => some .version
  | _ => none

/-! ### What ends the reading -/

/-- Why arguments are wrong. -/
inductive UsageError where
  /-- There is no option of the name. -/
  | unknown (name : String)
  /-- An option that can be given once is given again. -/
  | repeated
  /-- An option stands without its value. -/
  | missingValue
  /-- An option has a value and takes none. -/
  | surplusValue
  /-- A path is empty. -/
  | emptyPath
  /-- There is no page. -/
  | noPage
  deriving DecidableEq, Repr

/-- The wording of an error. -/
def UsageError.message : UsageError → String
  | unknown name => "unexpected argument " ++ name
  | repeated => "an option is given more than once"
  | missingValue => "an option lacks its value"
  | surplusValue => "an option has a value and takes none"
  | emptyPath => "a path is empty"
  | noPage => "no page is given"

/-- What ends the reading of arguments before their end. -/
inductive Stop where
  | help
  | version
  | usage (e : UsageError)
  deriving DecidableEq, Repr

/-! ### Reading -/

/-- What has been read, and the option that the next argument is the value of. -/
structure Reading where
  arguments : Arguments
  pending : Option Setting
  deriving DecidableEq, Repr

/-- Adds a page. -/
def addPage (page : String) (a : Arguments) : Except Stop Arguments :=
  if page = "" then .error (.usage .emptyPath) else .ok { a with pages := a.pages ++ [page] }

/-- Gives an option its value. -/
def give (s : Setting) (v : String) (a : Arguments) : Except Stop Arguments :=
  match s with
  | .language => if a.language.isSome then .error (.usage .repeated) else .ok { a with language := some v }
  | .baseUrl => if a.baseUrl.isSome then .error (.usage .repeated) else .ok { a with baseUrl := some v }
  | .config =>
    if v = "" then .error (.usage .emptyPath)
    else if a.config.isSome then .error (.usage .repeated)
    else .ok { a with config := some v }

/-- Turns an option without a value on. -/
def turnOn (w : Switch) (a : Arguments) : Except Stop Arguments :=
  match w with
  | .help => .error .help
  | .version => .error .version
  | .verbose => if a.verbose then .error (.usage .repeated) else .ok { a with verbose := true }
  | .set _ => .error (.usage .missingValue)

/-- Reads the short options that are joined in one argument. An option with a value takes the rest of
    the argument, without an equals sign before it, or the next argument if there is no rest. -/
def readShort : Text → Arguments → Except Stop Reading
  | [], a => .ok ⟨a, none⟩
  | c :: rest, a =>
    match Switch.ofShort? c with
    | none => .error (.usage (.unknown (String.ofList ['-', c])))
    | some (.set s) =>
      match rest with
      | [] => .ok ⟨a, some s⟩
      | '=' :: v => (give s (String.ofList v) a).map (⟨·, none⟩)
      | v => (give s (String.ofList v) a).map (⟨·, none⟩)
    | some w => (turnOn w a).bind (readShort rest)

/-- Reads a long option, with a value behind an equals sign if it holds one. -/
def readLong (t : Text) (a : Arguments) : Except Stop Reading :=
  let name := t.takeWhile (· != '=')
  let value := (t.dropWhile (· != '=')).tail?.map String.ofList
  match Switch.ofLong? name, value with
  | none, _ => .error (.usage (.unknown (String.ofList (['-', '-'] ++ name))))
  | some (.set s), some v => (give s v a).map (⟨·, none⟩)
  | some (.set s), none => .ok ⟨a, some s⟩
  | some _, some _ => .error (.usage .surplusValue)
  | some w, none => (turnOn w a).map (⟨·, none⟩)

/-- Reads one argument before `--`. -/
def readOne (argument : String) (r : Reading) : Except Stop Reading :=
  match argument.toList, r.pending with
  | '-' :: _ :: _, some _ => .error (.usage .missingValue)
  | '-' :: '-' :: long, none => readLong long r.arguments
  | '-' :: c :: rest, none => readShort (c :: rest) r.arguments
  | _, some s => (give s argument r.arguments).map (⟨·, none⟩)
  | _, none => (addPage argument r.arguments).map (⟨·, none⟩)

/-- Reads the arguments behind what has been read. -/
def readAll : List String → Reading → Except Stop Arguments
  | [], r =>
    if r.pending.isSome then .error (.usage .missingValue)
    else if r.arguments.pages.isEmpty then .error (.usage .noPage)
    else .ok r.arguments
  | "--" :: pages, r =>
    if r.pending.isSome then .error (.usage .missingValue)
    else (pages.foldlM (fun a p => addPage p a) r.arguments).bind fun a =>
      if a.pages.isEmpty then .error (.usage .noPage) else .ok a
  | argument :: rest, r => (readOne argument r).bind (readAll rest)

/-- What the arguments of the command ask for. -/
def parse (args : List String) : Except Stop Arguments := readAll args ⟨empty, none⟩

end Arguments
end WikiArticle
