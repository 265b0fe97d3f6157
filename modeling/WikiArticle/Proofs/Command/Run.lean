import WikiArticle.Command
import WikiArticle.Proofs.Article.Sources

/-! Runs of the command that read their arguments to the end. Such a run prints the whole article of its pages
    or nothing, and which of the two is told from the configuration file and the pages alone. The environment
    and the home directory take part in a run where they name the configuration file; the filter in the
    environment decides about warnings and nothing else, as long as the name of the file does not refer to it. -/

namespace WikiArticle

/-! ### The environment in a path -/

namespace Environment

theorem value_congr {env env' : Environment} {r : Reference}
    (h : ∀ name default, r = .named name default → env (String.ofList name) = env' (String.ofList name)) :
    value env r = value env' r := by
  cases r with
  | plain t => rfl
  | named name default => rw [value, value, h name default rfl]

/-- The text that references expand to depends on the variables that they mention only. -/
theorem expandVariables_congr {env env' : Environment} {t : Text} (h : ∀ name ∈ mentioned t, env name = env' name) :
    expandVariables env t = expandVariables env' t := by
  induction t using mentioned.induct with
  | case1 => rw [expandVariables, expandVariables]
  | case2 rest _ ih =>
    rw [mentioned, if_pos rfl] at h
    have hvalue : value env (reference rest).1 = value env' (reference rest).1 := by
      refine value_congr fun name default hr => h _ (List.mem_append_left _ ?_)
      rw [hr]
      exact List.mem_singleton_self _
    have hrest := ih fun name hname => h name (List.mem_append_right _ hname)
    rw [expandVariables, expandVariables, if_pos rfl, if_pos rfl, hvalue, hrest]
  | case3 c rest hc ih =>
    rw [mentioned, if_neg hc] at h
    rw [expandVariables, expandVariables, if_neg hc, if_neg hc, ih h]

theorem expandPath?_congr {env env' : Environment} {path : String} (h : ∀ name ∈ mentioned path.toList, env name = env' name)
    (home : Option String) : expandPath? env path home = expandPath? env' path home := by
  unfold expandPath?
  rw [expandVariables_congr h]

/-! ### The home directory -/

/-- No home directory is named: `HOME` is not set, or it is empty. -/
def NamesNoHome (env : Environment) : Prop := env "HOME" = none ∨ env "HOME" = some ""

/-- What is relied on of a lookup of the home directory: it finds the one that `HOME` names. Where `HOME` names
    none, the account of the user tells what is found, which can be nothing, and no variable takes part. -/
structure IsHomeLookup (lookup : Environment → Option String) : Prop where
  named : ∀ {env : Environment} {dir : String}, env "HOME" = some dir → dir ≠ "" → lookup env = some dir
  unnamed : ∀ {env env' : Environment}, env.NamesNoHome → env'.NamesNoHome → lookup env = lookup env'

namespace IsHomeLookup
variable {lookup : Environment → Option String} {env env' : Environment}

/-- Of all variables a lookup depends on `HOME` only. -/
theorem congr (hlookup : IsHomeLookup lookup) (h : env "HOME" = env' "HOME") : lookup env = lookup env' := by
  by_cases hnone : env'.NamesNoHome
  · exact hlookup.unnamed (by rwa [NamesNoHome, h]) hnone
  · obtain ⟨hset, hempty⟩ := not_or.mp hnone
    obtain ⟨dir, hdir⟩ := Option.ne_none_iff_exists'.mp hset
    have hne : dir ≠ "" := fun e => hempty (by rw [hdir, e])
    rw [hlookup.named (h.trans hdir) hne, hlookup.named hdir hne]

end IsHomeLookup

theorem home?_of_namesNoHome {env : Environment} (h : env.NamesNoHome) : env.home? = none := by
  rcases h with h | h <;> rw [home?, h] <;> rfl

theorem home?_of_named {env : Environment} {dir : String} (h : env "HOME" = some dir) (hne : dir ≠ "") :
    env.home? = some dir := by
  rw [home?, h]
  simp [hne]

/-- The lookup for a user whose account names a directory, or none. -/
theorem isHomeLookup_account (account : Option String) : IsHomeLookup fun env => env.home?.or account where
  named h hne := by rw [home?_of_named h hne, Option.some_or]
  unnamed h h' := by rw [home?_of_namesNoHome h, home?_of_namesNoHome h']

end Environment

/-! ### Reading -/

theorem Files.read_error {files : Files} {path : String} {e : ReadError} (h : files.read path = .error e) :
    e = .notFound path ∧ files path = .missing ∨ (∃ reason, e = .unreadable path reason) ∧ files path ≠ .missing := by
  unfold Files.read Files.textOf at h
  split at h
  · rename_i hm
    cases h
    exact Or.inl ⟨rfl, hm⟩
  · rename_i hm
    cases h
    exact Or.inr ⟨⟨_, rfl⟩, by rw [hm]; simp⟩
  · rename_i hm
    split at h
    · cases h
    · cases h
      exact Or.inr ⟨⟨_, rfl⟩, by rw [hm]; simp⟩

theorem Files.read_missing {files : Files} {path : String} (h : files path = .missing) :
    files.read path = .error (.notFound path) := by
  rw [Files.read, h]
  rfl

namespace Config

/-- The file is there and cannot be read, or its text gives no configuration. -/
def Fails (files : Files) (path : String) : Prop :=
  files path ≠ .missing ∧ ∀ s, files.read path = .ok s → parse? s.toList = none

/-- What the file at a path sets. A file that is not there sets nothing. -/
def settings (files : Files) (path : String) : Config :=
  ((files.read path).toOption.bind fun s => parse? s.toList).getD .empty

theorem load_cases (files : Files) (path : String) :
    (Fails files path ∧ ∃ e, load files path = .error e) ∨
    (¬Fails files path ∧ ∃ found, load files path = .ok found ∧ found.getD .empty = settings files path) := by
  cases hread : files.read path with
  | error e =>
    rcases Files.read_error hread with ⟨rfl, hmissing⟩ | ⟨⟨reason, rfl⟩, hthere⟩
    · exact Or.inr ⟨fun hfails => hfails.1 hmissing, none, by rw [load, hread], by rw [settings, hread]; rfl⟩
    · exact Or.inl ⟨⟨hthere, fun s hs => by rw [hread] at hs; cases hs⟩, _, by rw [load, hread]⟩
  | ok s =>
    have hthere : files path ≠ .missing := fun hmissing => by
      rw [Files.read_missing hmissing] at hread
      cases hread
    cases hparse : parse? s.toList with
    | none =>
      refine Or.inl ⟨⟨hthere, fun u hu => ?_⟩, .malformed path, by rw [load, hread]; simp only [hparse]⟩
      rw [hread] at hu
      cases hu
      exact hparse
    | some c =>
      refine Or.inr ⟨fun hfails => ?_, some c, by rw [load, hread]; simp only [hparse], ?_⟩
      · have := hfails.2 s hread
        rw [hparse] at this
        cases this
      · rw [settings, hread]
        simp [Except.toOption, hparse]

end Config

namespace Article

/-- Either all pages can be read and there is a conversion, or the first that cannot be read is the error. -/
theorem ofFiles_cases (options : Options) (files : Files) (pages : List String) :
    ((∀ page ∈ pages, ∃ s, files.read page = .ok s) ∧ ∃ conversion, ofFiles options files pages = .ok conversion) ∨
    ∃ before page after e, pages = before ++ page :: after ∧ (∀ p ∈ before, ∃ s, files.read p = .ok s) ∧
      files.read page = .error e ∧ ofFiles options files pages = .error e := by
  rcases draftOfFiles_ofLines options files pages [] with
    ⟨sources, hsources, hdraft⟩ | ⟨before, page, after, e, hpages, hbefore, hpage, hdraft⟩
  · refine Or.inl ⟨fun page hpage => ?_, _, congrArg (Except.map Draft.finish) hdraft⟩
    have hmem : files.read page ∈ pages.map files.read := List.mem_map_of_mem hpage
    rw [hsources] at hmem
    obtain ⟨s, -, hs⟩ := List.mem_map.mp hmem
    exact ⟨s, hs.symm⟩
  · exact Or.inr ⟨before, page, after, e, hpages, hbefore, hpage, congrArg (Except.map Draft.finish) hdraft⟩

end Article

namespace Command

/-! ### What a run shows -/

/-- The options of a run: what the arguments give, else what the configuration file sets, else the defaults. -/
def chosen (files : Files) (path : String) (a : Arguments) : Options where
  language := match a.language, (Config.settings files path).language with
    | some given, _ => given.toList
    | none, some configured => configured
    | none, none => Options.default.language
  imageBase := match a.baseUrl, (Config.settings files path).imageBase with
    | some given, _ => some given.toList
    | none, some configured => some configured
    | none, none => Options.default.imageBase

theorem options_settings (files : Files) (path : String) (a : Arguments) :
    options a (Config.settings files path) = chosen files path a := by
  unfold options chosen
  cases a.language <;> cases a.baseUrl <;> cases (Config.settings files path).language <;>
    cases (Config.settings files path).imageBase <;> rfl

variable {env env' : Environment} {files : Files} {a : Arguments} {home : Option String}

theorem run_of_parse {args : List String} (h : Arguments.parse args = .ok a) :
    run env files args home = convert env files a home := by
  rw [run, h]

/-- The three ways in which a run ends. -/
theorem convert_cases (env : Environment) (files : Files) (a : Arguments) (home : Option String) :
    (Config.Fails files (configPath env a home) ∧ ∃ e, Config.load files (configPath env a home) = .error e ∧
      convert env files a home = ⟨1, "", [], some (configFailure e)⟩) ∨
    (¬Config.Fails files (configPath env a home) ∧ (∀ page ∈ a.pages, ∃ s, files.read page = .ok s) ∧
      ∃ conversion warnings, Article.ofFiles (chosen files (configPath env a home) a) files a.pages = .ok conversion ∧
        convert env files a home = ⟨0, String.ofList conversion.document, Log.shown env warnings, none⟩) ∨
    (¬Config.Fails files (configPath env a home) ∧ ∃ before page after e warnings, a.pages = before ++ page :: after ∧
      (∀ p ∈ before, ∃ s, files.read p = .ok s) ∧ files.read page = .error e ∧
      convert env files a home = ⟨1, "", Log.shown env warnings, some (pageFailure e)⟩) := by
  rcases Config.load_cases files (configPath env a home) with ⟨hfails, e, hload⟩ | ⟨hfails, found, hload, hfound⟩
  · exact Or.inl ⟨hfails, e, hload, by simp only [convert, hload]⟩
  · rw [← options_settings, ← hfound]
    rcases Article.ofFiles_cases (options a (found.getD .empty)) files a.pages with
      ⟨hpages, conversion, hconversion⟩ | ⟨before, page, after, e, hsplit, hbefore, hpage, herror⟩
    · exact Or.inr (Or.inl ⟨hfails, hpages, conversion, _, hconversion, by simp only [convert, hload, hconversion]; rfl⟩)
    · exact Or.inr (Or.inr ⟨hfails, before, page, after, e, _, hsplit, hbefore, hpage,
        by simp only [convert, hload, herror]; rfl⟩)

/-! ### What the environment changes -/

theorem filterName_ne_home : "HOME" ≠ Log.filterName := by decide

theorem configPath_congr (henv : ∀ name, name ≠ Log.filterName → env' name = env name)
    (hconfig : ∀ path, a.config = some path → Log.filterName ∉ Environment.mentioned path.toList) :
    configPath env' a home = configPath env a home := by
  unfold configPath
  cases hpath : a.config with
  | none => rfl
  | some path =>
    have hmentioned : ∀ name ∈ Environment.mentioned path.toList, env' name = env name := fun name hname =>
      henv name fun e => hconfig path hpath (e ▸ hname)
    simp only [Environment.expandPath?_congr hmentioned]

/-- The path of the configuration file that is read when none is named stands in the home directory. -/
theorem defaultPath_some (env : Environment) (dir : String) :
    Config.defaultPath env (some dir) = dir ++ "/.config/wiki-docbook/config.toml" := by
  apply String.toList_injective
  simp [Config.defaultPath, Environment.expandHome]

/-- Without the warnings an outcome depends on the environment through the path of the configuration file only. -/
theorem convert_congr (h : configPath env' a home = configPath env a home) :
    (convert env' files a home).code = (convert env files a home).code ∧
    (convert env' files a home).stdout = (convert env files a home).stdout ∧
    (convert env' files a home).failure = (convert env files a home).failure := by
  simp only [convert, h]
  cases Config.load files (configPath env a home) with
  | error e => exact ⟨rfl, rfl, rfl⟩
  | ok found =>
    simp only
    cases Article.ofFiles (options a (found.getD .empty)) files a.pages with
    | error e => exact ⟨rfl, rfl, rfl⟩
    | ok conversion => exact ⟨rfl, rfl, rfl⟩

/-! ### All or nothing -/

/-- One of the pages cannot be read. -/
def MissesPage (files : Files) (a : Arguments) : Prop := ∃ page ∈ a.pages, ∃ e, files.read page = .error e

theorem not_missesPage (h : ∀ page ∈ a.pages, ∃ s, files.read page = .ok s) : ¬MissesPage files a := by
  rintro ⟨page, hpage, e, he⟩
  obtain ⟨s, hs⟩ := h page hpage
  rw [he] at hs
  cases hs

theorem convert_whole_or_nothing (env : Environment) (files : Files) (a : Arguments) (home : Option String) :
    ((convert env files a home).code = 0 ∧ ∃ conversion,
      Article.ofFiles (chosen files (configPath env a home) a) files a.pages = .ok conversion ∧
        (convert env files a home).stdout = String.ofList conversion.document) ∨
    ((convert env files a home).code = 1 ∧ (convert env files a home).stdout = "") := by
  rcases convert_cases env files a home with
    ⟨-, e, -, hrun⟩ | ⟨-, -, conversion, warnings, hconversion, hrun⟩ | ⟨-, _, _, _, e, warnings, -, -, -, hrun⟩
  · exact Or.inr (by rw [hrun]; exact ⟨rfl, rfl⟩)
  · exact Or.inl (by rw [hrun]; exact ⟨rfl, conversion, hconversion, rfl⟩)
  · exact Or.inr (by rw [hrun]; exact ⟨rfl, rfl⟩)

theorem convert_code_iff (env : Environment) (files : Files) (a : Arguments) (home : Option String) :
    (convert env files a home).code = 1 ↔ Config.Fails files (configPath env a home) ∨ MissesPage files a := by
  rcases convert_cases env files a home with
    ⟨hfails, e, -, hrun⟩ | ⟨hfails, hpages, _, _, -, hrun⟩ | ⟨-, before, page, after, e, _, hsplit, -, hpage, hrun⟩
  · simp [hrun, hfails]
  · simp [hrun, hfails, not_missesPage hpages]
  · have hmisses : MissesPage files a := ⟨page, by rw [hsplit]; simp, e, hpage⟩
    simp [hrun, hmisses]

/-- Behind a configuration file that fails neither the pages nor the other arguments are looked at. -/
theorem convert_of_fails (h : Config.Fails files (configPath env a home)) :
    ∃ e, Config.load files (configPath env a home) = .error e ∧
      ∀ (files' : Files) (a' : Arguments), a'.config = a.config →
        files' (configPath env a home) = files (configPath env a home) →
          convert env files' a' home = ⟨1, "", [], some (configFailure e)⟩ := by
  obtain ⟨-, e, hload⟩ | ⟨hfails, -⟩ := Config.load_cases files (configPath env a home)
  · refine ⟨e, hload, fun files' a' hconfig hfiles => ?_⟩
    have hpath : configPath env a' home = configPath env a home := by rw [configPath, configPath, hconfig]
    have hload' : Config.load files' (configPath env a home) = .error e := by
      rw [← hload, Config.load, Config.load, Files.read, Files.read, hfiles]
    simp only [convert, hpath, hload']
  · exact absurd h hfails

theorem convert_of_missesPage (hconfig : ¬Config.Fails files (configPath env a home)) (hpage : MissesPage files a) :
    ∃ before page after e, a.pages = before ++ page :: after ∧ (∀ p ∈ before, ∃ s, files.read p = .ok s) ∧
      files.read page = .error e ∧ (convert env files a home).failure = some (pageFailure e) := by
  rcases convert_cases env files a home with
    ⟨hfails, -⟩ | ⟨-, hpages, -⟩ | ⟨-, before, page, after, e, _, hsplit, hbefore, hread, hrun⟩
  · exact absurd hfails hconfig
  · exact absurd hpage (not_missesPage hpages)
  · exact ⟨before, page, after, e, hsplit, hbefore, hread, by rw [hrun]⟩

/-- Every run whose arguments are read to the end prints the article of its pages and exits with 0, or prints
    nothing and exits with 1. It exits with 1 when the configuration file is there and gives no configuration,
    which is told before a page is looked at, or else when there is a page that cannot be read, of which the
    first is told. What the command line does not choose the configuration file does, and a file that is not
    there chooses nothing. A configuration file that is not named stands in the home directory, if there is one.
    Being verbose changes nothing. The filter in the environment changes neither what is printed nor how the run
    ends, unless the path of the configuration file refers to it. -/
theorem run_all_or_nothing (lookup : Environment → Option String) (hlookup : Environment.IsHomeLookup lookup)
    (env : Environment) (files : Files) (args : List String) (a : Arguments) (h : Arguments.parse args = .ok a) :
    let path := match a.config with
      | some given => (Environment.expandPath? env given (lookup env)).getD given
      | none => Config.defaultPath env (lookup env)
    let o := run env files args (lookup env)
    ((o.code = 0 ∧ ∃ conversion, Article.ofFiles (chosen files path a) files a.pages = .ok conversion ∧
        o.stdout = String.ofList conversion.document) ∨
      (o.code = 1 ∧ o.stdout = "")) ∧
    (o.code = 1 ↔ Config.Fails files path ∨ MissesPage files a) ∧
    (files path = .missing → Config.settings files path = .empty) ∧
    (∀ s c, files.read path = .ok s → Config.parse? s.toList = some c → Config.settings files path = c) ∧
    (a.config = none → ∀ dir, lookup env = some dir → path = dir ++ "/.config/wiki-docbook/config.toml") ∧
    (Config.Fails files path → ∃ e, Config.load files path = .error e ∧ o.failure = some (configFailure e) ∧
      ∀ (files' : Files) (args' : List String) (a' : Arguments), Arguments.parse args' = .ok a' →
        a'.config = a.config → files' path = files path → run env files' args' (lookup env) = o) ∧
    (¬Config.Fails files path → MissesPage files a →
      ∃ before page after e, a.pages = before ++ page :: after ∧ (∀ p ∈ before, ∃ s, files.read p = .ok s) ∧
        files.read page = .error e ∧ (e = .notFound page ∨ ∃ reason, e = .unreadable page reason) ∧
          o.failure = some (pageFailure e)) ∧
    (∀ (args' : List String) (verbose : Bool), Arguments.parse args' = .ok { a with verbose := verbose } →
      run env files args' (lookup env) = o) ∧
    ∀ env' : Environment, (∀ name, name ≠ Log.filterName → env' name = env name) →
      (∀ given, a.config = some given → Log.filterName ∉ Environment.mentioned given.toList) →
        (run env' files args (lookup env')).code = o.code ∧ (run env' files args (lookup env')).stdout = o.stdout ∧
          (run env' files args (lookup env')).failure = o.failure := by
  intro path o
  have ho : o = convert env files a (lookup env) := run_of_parse h
  have hpath : configPath env a (lookup env) = path := rfl
  rw [ho, ← hpath]
  refine ⟨convert_whole_or_nothing env files a (lookup env), convert_code_iff env files a (lookup env),
    fun hmissing => ?_, fun s c hread hparse => ?_, fun hconfig dir hdir => ?_, fun hfails => ?_,
    fun hconfig hpage => ?_, fun args' verbose hargs => ?_, fun env' henv hconfig => ?_⟩
  · rw [Config.settings, Files.read_missing hmissing]
    rfl
  · rw [Config.settings, hread]
    simp [Except.toOption, hparse]
  · rw [configPath, hconfig, hdir]
    exact defaultPath_some env dir
  · obtain ⟨e, hload, hrun⟩ := convert_of_fails hfails
    have hthis := hrun files a rfl rfl
    refine ⟨e, hload, by rw [hthis], fun files' args' a' hargs hconfig hfiles => ?_⟩
    rw [run_of_parse hargs, hthis, hrun files' a' hconfig hfiles]
  · obtain ⟨before, page, after, e, hsplit, hbefore, hread, hfailure⟩ := convert_of_missesPage hconfig hpage
    refine ⟨before, page, after, e, hsplit, hbefore, hread, ?_, hfailure⟩
    exact (Files.read_error hread).imp And.left And.left
  · rw [run_of_parse hargs]
    rfl
  · have hhome : lookup env' = lookup env := hlookup.congr (henv "HOME" filterName_ne_home)
    rw [run_of_parse h, hhome]
    exact convert_congr (configPath_congr henv hconfig)

/-- An empty page beside a directory. -/
def sampleFiles : Files := fun path =>
  if path = "page" then .file ⟨#[]⟩ else if path = "pages" then .directory else .missing

/-- The home directory is set, and nothing else. -/
def sampleEnvironment : Environment := fun name => if name = "HOME" then some "home" else none

/-- The lookup for a user whose account names a home directory as well. -/
def sampleLookup (env : Environment) : Option String := env.home?.or (some "/root")

theorem run_directory_as_page :
    Environment.IsHomeLookup sampleLookup ∧ sampleLookup sampleEnvironment = some "home" ∧
    Arguments.parse ["page", "pages"] = .ok ⟨["page", "pages"], none, none, none, false⟩ ∧
    let o := run sampleEnvironment sampleFiles ["page", "pages"] (sampleLookup sampleEnvironment)
    o.code = 1 ∧ o.stdout = "" := by
  have hlookup : Environment.IsHomeLookup sampleLookup := Environment.isHomeLookup_account (some "/root")
  obtain ⟨hends, hcode, -⟩ :=
    run_all_or_nothing sampleLookup hlookup sampleEnvironment sampleFiles ["page", "pages"] _ rfl
  have hone := hcode.mpr (Or.inr ⟨"pages", by simp, _, rfl⟩)
  refine ⟨hlookup, by decide, rfl, hone, ?_⟩
  rcases hends with ⟨hzero, -⟩ | ⟨-, hnothing⟩
  · rw [hone] at hzero
    cases hzero
  · exact hnothing

/-- The filter is a variable like any other for the path of the configuration file. -/
theorem run_filter_as_path :
    let filtered : Environment := fun name => if name = Log.filterName then some "pages" else sampleEnvironment name
    let args := ["--config", "$RUST_LOG", "page"]
    let plain := run sampleEnvironment sampleFiles args (sampleLookup sampleEnvironment)
    let o := run filtered sampleFiles args (sampleLookup filtered)
    Arguments.parse args = .ok ⟨["page"], none, none, some "$RUST_LOG", false⟩ ∧
    (∀ name, name ≠ Log.filterName → filtered name = sampleEnvironment name) ∧
    plain.code = 0 ∧ plain.stdout ≠ "" ∧ o.code = 1 ∧ o.stdout = "" := by
  refine ⟨rfl, fun name hname => if_neg hname, ?_⟩
  decide +kernel

end Command
end WikiArticle
