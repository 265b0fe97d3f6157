import WikiArticle.Text.Alphanumeric

/-! Environment variables in paths. A leading `~` stands for the home directory; `$NAME`, `${NAME}`
    and `${NAME:-default}` stand for the value of a variable, and `$$` for a dollar sign. Values are
    put in as they are: what they hold is not looked at again. The home directory itself is given from
    outside, for it is looked up in the accounts of the machine where `HOME` does not name it. -/

namespace WikiArticle

/-- The values of the environment variables. -/
abbrev Environment := String → Option String

namespace Environment

/-! ### References -/

/-- What a dollar sign and the text behind it refer to. -/
inductive Reference where
  /-- Some text that stands for itself. -/
  | plain (t : Text)
  /-- The value of a variable, or the default, if there is one, when the variable is not set. -/
  | named (name : Text) (default : Option Text)
  deriving DecidableEq, Repr

/-- Whether `c` can occur in the name of a variable. -/
def isNameChar (c : Char) : Bool := Text.isAlphanumeric c || c == '_'

/-- The text before and the text behind the first occurrence of a character. -/
def cutAt (sep : Char) : Text → Option (Text × Text)
  | [] => none
  | c :: rest => if c = sep then some ([], rest) else (cutAt sep rest).map fun (a, b) => (c :: a, b)

/-- The text before and the text behind the first `:-`. -/
def cutAtDefault : Text → Option (Text × Text)
  | ':' :: '-' :: rest => some ([], rest)
  | c :: rest => (cutAtDefault rest).map fun (a, b) => (c :: a, b)
  | [] => none

/-- The reference that braces hold. A name is not empty, so a default needs something before it. -/
def inBraces (t : Text) : Reference :=
  match cutAtDefault t with
  | some (c :: name, default) => .named (c :: name) (some default)
  | _ => .named t none

/-- The reference that `t`, the text behind a dollar sign, begins with, and the text behind it. A brace
    that is never closed stands for itself, and so does the sign itself where no name follows it. -/
def reference (t : Text) : Reference × Text :=
  match t with
  | '{' :: rest =>
    match cutAt '}' rest with
    | some (inner, after) => (inBraces inner, after)
    | none => (.plain ['$', '{'], rest)
  | '$' :: rest => (.plain ['$'], rest)
  | _ =>
    if (t.takeWhile isNameChar).isEmpty then (.plain ['$'], t)
    else (.named (t.takeWhile isNameChar) none, t.dropWhile isNameChar)

/-- The text that a reference stands for, if it stands for any. -/
def value (env : Environment) : Reference → Option Text
  | .plain t => some t
  | .named name default => ((env (String.ofList name)).map String.toList).or default

/-! ### Expansion -/

theorem length_cutAt {sep : Char} {t a b : Text} (h : cutAt sep t = some (a, b)) : b.length < t.length := by
  induction t generalizing a b with
  | nil => cases h
  | cons c t ih =>
    rw [cutAt] at h
    split at h
    · cases h
      simp
    · simp only [Option.map_eq_some_iff, Prod.exists] at h
      obtain ⟨x, y, hxy, h⟩ := h
      cases h
      exact Nat.lt_succ_of_lt (ih hxy)

theorem length_reference (t : Text) : (reference t).2.length ≤ t.length := by
  unfold reference
  split
  · split
    · rename_i h
      exact Nat.le_succ_of_le (Nat.le_of_lt (length_cutAt h))
    · simp
  · simp
  · split
    · simp
    · exact (List.dropWhile_suffix _).length_le

/-- The text with every reference replaced, unless one refers to a variable that has no value. -/
def expandVariables (env : Environment) (t : Text) : Option Text :=
  match t with
  | [] => some []
  | c :: rest =>
    if c = '$' then
      have := length_reference rest
      (value env (reference rest).1).bind fun v => (expandVariables env (reference rest).2).map (v ++ ·)
    else (expandVariables env rest).map (c :: ·)
termination_by t.length
decreasing_by all_goals (simp only [List.length_cons]; omega)

/-- The names of the variables that a text refers to. -/
def mentioned (t : Text) : List String :=
  match t with
  | [] => []
  | c :: rest =>
    if c = '$' then
      have := length_reference rest
      (match (reference rest).1 with
        | .plain _ => []
        | .named name _ => [String.ofList name]) ++ mentioned (reference rest).2
    else mentioned rest
termination_by t.length
decreasing_by all_goals (simp only [List.length_cons]; omega)

/-- The home directory that `HOME` names. An empty value names none. -/
def home? (env : Environment) : Option String := (env "HOME").filter (· ≠ "")

/-- The text with a leading `~`, alone or before a slash, replaced by the home directory, if there is one. -/
def expandHome (home : Option String) (t : Text) : Text :=
  match t with
  | '~' :: rest =>
    if rest.isEmpty || rest.head? == some '/' then
      match home with
      | some dir => dir.toList ++ rest
      | none => t
    else t
  | _ => t

/-- The path that is meant by a path with references. A `~` that comes from a variable stays. -/
def expandPath? (env : Environment) (path : String) (home : Option String := env.home?) : Option String :=
  (expandVariables env path.toList).map fun t =>
    String.ofList (if t.head? == some '~' && path.toList.head? != some '~' then t else expandHome home t)

end Environment
end WikiArticle
