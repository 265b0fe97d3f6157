import WikiArticle.Text.CodePoint

/-! The TOML that a configuration file is written in: a list of keys with string values. Keys are bare or
    quoted; strings are basic or literal, on one line or on many. Every other construct of TOML would
    give a key a value that is no string, so here it is refused like text that is no TOML at all. -/

namespace WikiArticle
namespace Toml

/-- A reader takes something from the start of a text and leaves the rest. -/
abbrev Reader (α : Type) := Text → Option (α × Text)

/-! ### Characters -/

/-- Whether `c` separates tokens within a line. -/
def isSpace (c : Char) : Bool := c == ' ' || c == '\t'

/-- Whether `c` can stand in a comment or, as itself, in a string. -/
def isPrintable (c : Char) : Bool := c == '\t' || (0x20 ≤ c.toNat && c.toNat ≠ 0x7F)

/-- Whether `c` can stand in a key without quotes. -/
def isKeyChar (c : Char) : Bool := c.isAlphanum || c == '_' || c == '-'

/-- The text behind a line break. -/
def lineBreak? : Text → Option Text
  | '\n' :: rest => some rest
  | '\r' :: '\n' :: rest => some rest
  | _ => none

/-- The text behind a comment, or the text itself if it begins with none. -/
def skipComment : Text → Text
  | '#' :: rest => rest.dropWhile isPrintable
  | t => t

/-- The text behind the end of a line that holds nothing more than spaces and a comment. -/
def lineEnd? (t : Text) : Option Text :=
  match skipComment (t.dropWhile isSpace) with
  | [] => some []
  | rest => lineBreak? rest

/-! ### Escapes -/

/-- The character that `n` hexadecimal digits name. -/
def codePoint (n : Nat) : Reader Char := fun t =>
  if (t.take n).length = n then (Text.charOfHex? (t.take n)).map (·, t.drop n) else none

/-- The character that the text behind a backslash names. -/
def escaped : Reader Char
  | 'b' :: rest => some ('\x08', rest)
  | 't' :: rest => some ('\t', rest)
  | 'n' :: rest => some ('\n', rest)
  | 'f' :: rest => some ('\x0c', rest)
  | 'r' :: rest => some ('\r', rest)
  | 'e' :: rest => some ('\x1b', rest)
  | '"' :: rest => some ('"', rest)
  | '\\' :: rest => some ('\\', rest)
  | 'x' :: rest => codePoint 2 rest
  | 'u' :: rest => codePoint 4 rest
  | 'U' :: rest => codePoint 8 rest
  | _ => none

theorem length_of_escaped {t rest : Text} {c : Char} (h : escaped t = some (c, rest)) :
    rest.length < t.length := by
  unfold escaped at h
  split at h
  case h_9 | h_10 | h_11 =>
    simp only [codePoint] at h
    split at h
    · simp only [Option.map_eq_some_iff] at h
      obtain ⟨a, -, h⟩ := h
      cases h
      simp only [List.length_drop, List.length_cons]
      omega
    · cases h
  all_goals cases h
  all_goals simp

/-! ### Strings -/

/-- How the characters of a string are written. -/
structure Style where
  /-- The character that delimits the string. -/
  quote : Char
  /-- Whether a backslash begins an escape. -/
  escapes : Bool
  /-- Whether the string can go on over the end of a line. -/
  multiline : Bool
  deriving DecidableEq, Repr

/-- The text behind the spaces and line breaks it begins with. -/
def skipLines : Text → Text
  | ' ' :: rest => skipLines rest
  | '\t' :: rest => skipLines rest
  | '\n' :: rest => skipLines rest
  | '\r' :: '\n' :: rest => skipLines rest
  | t => t

theorem length_skipLines (t : Text) : (skipLines t).length ≤ t.length := by
  fun_induction skipLines t <;> simp_all <;> omega

/-- The text behind a line end that a backslash hides, with the white space after it. -/
def hiddenBreak? (t : Text) : Option Text := (lineBreak? (t.dropWhile isSpace)).map skipLines

theorem length_lineBreak? {t rest : Text} (h : lineBreak? t = some rest) : rest.length < t.length := by
  unfold lineBreak? at h
  split at h <;> cases h <;> simp only [List.length_cons] <;> omega

theorem length_hiddenBreak? {t rest : Text} (h : hiddenBreak? t = some rest) : rest.length < t.length := by
  simp only [hiddenBreak?, Option.map_eq_some_iff] at h
  obtain ⟨u, hu, rfl⟩ := h
  have h1 := length_lineBreak? hu
  have h2 := (List.dropWhile_suffix (l := t) isSpace).length_le
  have h3 := length_skipLines u
  omega

/-- What the text inside a string goes on with. -/
inductive Chunk where
  /-- The string ends; it holds the quotes that stand before its delimiter. -/
  | stop (quotes : Text) (rest : Text)
  /-- The string goes on with some characters. -/
  | more (cs : Text) (rest : Text)
  deriving DecidableEq, Repr

/-- The end of a string on many lines: three quotes, and up to two more before them. -/
def tripleEnd? (quote : Char) (t : Text) : Option (Text × Text) :=
  let run := (t.takeWhile (· == quote)).length
  if 3 ≤ run then some (List.replicate (min run 5 - 3) quote, t.drop (min run 5)) else none

/-- What the text inside a string of a style goes on with, if it can go on. -/
def chunk? (s : Style) (t : Text) : Option Chunk :=
  match t with
  | [] => none
  | c :: rest =>
    if c = s.quote then
      if s.multiline then
        match tripleEnd? s.quote t with
        | some (quotes, rest) => some (.stop quotes rest)
        | none => some (.more [c] rest)
      else some (.stop [] rest)
    else if c = '\\' ∧ s.escapes = true then
      match if s.multiline then hiddenBreak? rest else none with
      | some rest => some (.more [] rest)
      | none => (escaped rest).map fun (e, rest) => .more [e] rest
    else if isPrintable c then some (.more [c] rest)
    else if s.multiline then (lineBreak? t).map fun rest' => .more (t.take (t.length - rest'.length)) rest'
    else none

theorem length_of_chunk? {s : Style} {t cs rest : Text} (h : chunk? s t = some (.more cs rest)) :
    rest.length < t.length := by
  unfold chunk? at h
  split at h
  · cases h
  · split at h
    · split at h
      · split at h <;> cases h
        simp
      · cases h
    · split at h
      · split at h
        · rename_i hb
          cases h
          split at hb
          · exact Nat.lt_succ_of_lt (length_hiddenBreak? hb)
          · cases hb
        · simp only [Option.map_eq_some_iff, Prod.exists] at h
          obtain ⟨e, r, he, h⟩ := h
          cases h
          exact Nat.lt_succ_of_lt (length_of_escaped he)
      · split at h
        · cases h
          simp
        · split at h
          · simp only [Option.map_eq_some_iff] at h
            obtain ⟨r, hr, h⟩ := h
            cases h
            exact length_lineBreak? hr
          · cases h

/-- The characters of a string, from behind its opening delimiter. -/
def characters (s : Style) : Reader Text := fun t =>
  match h : chunk? s t with
  | none => none
  | some (.stop quotes rest) => some (quotes, rest)
  | some (.more cs rest) =>
    have : rest.length < t.length := length_of_chunk? h
    (characters s rest).map fun (v, rest) => (cs ++ v, rest)
termination_by t => t.length

/-- A string on one line, as keys and values can be written. -/
def lineString : Reader Text
  | '"' :: rest => characters ⟨'"', true, false⟩ rest
  | '\'' :: rest => characters ⟨'\'', false, false⟩ rest
  | _ => none

/-- A string on one line or on many, as values can be written. A line break behind the opening delimiter
    is not part of the string. -/
def string : Reader Text
  | '"' :: '"' :: '"' :: rest => characters ⟨'"', true, true⟩ ((lineBreak? rest).getD rest)
  | '\'' :: '\'' :: '\'' :: rest => characters ⟨'\'', false, true⟩ ((lineBreak? rest).getD rest)
  | t => lineString t

/-! ### Entries -/

/-- A key, bare or quoted. -/
def key : Reader Text := fun t =>
  match lineString t with
  | some r => some r
  | none => if (t.takeWhile isKeyChar).isEmpty then none else some (t.takeWhile isKeyChar, t.dropWhile isKeyChar)

/-- A key and its value, on a line of their own. -/
def keyValue : Reader (Text × Text) := fun t => do
  let (k, t) ← key t
  let t ← match t.dropWhile isSpace with
    | '=' :: rest => some (rest.dropWhile isSpace)
    | _ => none
  let (v, t) ← string t
  let t ← lineEnd? t
  some ((k, v), t)

/-- The entries of a text. The fuel bounds the number of lines. -/
def entriesWithin : Nat → Text → Option (List (Text × Text))
  | _, [] => some []
  | 0, _ => none
  | fuel + 1, t =>
    let t := t.dropWhile isSpace
    match lineEnd? t with
    | some rest => entriesWithin fuel rest
    | none =>
      match keyValue t with
      | some (kv, rest) => (entriesWithin fuel rest).map (kv :: ·)
      | none => none

/-- The entries of a file, in order, behind an optional byte order mark. -/
def entries? (t : Text) : Option (List (Text × Text)) :=
  let t := if t.head? == some '\ufeff' then t.drop 1 else t
  entriesWithin t.length t

end Toml
end WikiArticle
