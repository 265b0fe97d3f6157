import WikiArticle.Proofs.Markup.Nesting

/-! Written text, read as elements that hold characters and elements. The reading goes from the end of the text
    backwards: an end tag opens a new level, which the start tag of the same name closes. Every text that
    ends its elements in order is read, and its reading is the one whose tokens are those of the text. -/

namespace WikiArticle
namespace Markup
open Token

/-- Characters and elements, one after the other. -/
inductive Forest where
  | nil
  | char (c : Char) (next : Forest)
  /-- An element, with what stands between the brackets of its start tag, what is inside it, and what
      follows it. -/
  | element (tag : Text) (inside next : Forest)
  deriving DecidableEq, Repr

namespace Forest

/-- One forest behind another. -/
def append : Forest → Forest → Forest
  | nil, g => g
  | char c next, g => char c (next.append g)
  | element tag inside next, g => element tag inside (next.append g)

/-- The tokens that a forest is written with, the end tags among them. -/
def tokens : Forest → List Token
  | nil => []
  | char c next => .char c :: next.tokens
  | element tag inside next => .start tag :: (inside.tokens ++ .stop (elementName tag) :: next.tokens)

/-- The text that a forest is written as. -/
def text (f : Forest) : Text := f.tokens.flatMap Token.text

theorem append_nil (f : Forest) : f.append nil = f := by
  induction f with
  | nil => rfl
  | char c next ih => rw [append, ih]
  | element tag inside next _ ih => rw [append, ih]

theorem tokens_append (f g : Forest) : (f.append g).tokens = f.tokens ++ g.tokens := by
  induction f with
  | nil => rfl
  | char c next ih => rw [append, tokens, tokens, ih, List.cons_append]
  | element tag inside next _ ih => rw [append, tokens, tokens, ih, List.cons_append, List.append_assoc, List.cons_append]

/-! ### Reading -/

/-- What has been read behind a place: the forest of its level, and for each element around it the name that
    its end tag gives and the forest that follows it, the innermost first. -/
abbrev Reading := Forest × List (Text × Forest)

/-- The reading before a token, from the reading behind it. -/
def before : Token → Option Reading → Option Reading
  | .char c, some (f, around) => some (char c f, around)
  | .stop name, some (f, around) => some (nil, (name, f) :: around)
  | .start tag, some (f, (name, g) :: around) =>
    if elementName tag = name then some (element tag f g, around) else none
  | _, _ => none

/-- The forest that tokens are read as, if they end their elements in order. -/
def ofTokens? (ts : List Token) : Option Forest :=
  match ts.foldr before (some (nil, [])) with
  | some (f, []) => some f
  | _ => none

/-- The forest that a text is read as, if its elements are all closed in order. -/
def ofText? (t : Text) : Option Forest := ofTokens? (Markup.tokens t)

theorem foldr_tokens (f g : Forest) (around : List (Text × Forest)) :
    f.tokens.foldr before (some (g, around)) = some (f.append g, around) := by
  induction f generalizing g around with
  | nil => rfl
  | char c next ih => rw [tokens, List.foldr_cons, ih, before, append]
  | element tag inside next hinside hnext =>
    rw [tokens, List.foldr_cons, List.foldr_append, List.foldr_cons, hnext, before, hinside, before, if_pos rfl,
      append_nil, append]

theorem ofTokens?_tokens (f : Forest) : ofTokens? f.tokens = some f := by
  rw [ofTokens?, foldr_tokens, append_nil]

/-! ### Balanced tokens -/

/-- The tokens end the elements `s`, the innermost first, with whole elements between their end tags. -/
def Ending : List Text → List Token → Prop
  | [], ts => ∃ f : Forest, ts = f.tokens
  | name :: s, ts => ∃ (f : Forest) (us : List Token), ts = f.tokens ++ stop name :: us ∧ Ending s us

theorem Ending.char {s : List Text} {ts : List Token} (c : Char) (h : Ending s ts) : Ending s (.char c :: ts) := by
  cases s with
  | nil =>
    obtain ⟨f, rfl⟩ := h
    exact ⟨Forest.char c f, rfl⟩
  | cons name s =>
    obtain ⟨f, us, rfl, h⟩ := h
    exact ⟨Forest.char c f, us, rfl, h⟩

theorem Ending.element {s : List Text} {ts : List Token} {tag : Text} (h : Ending (elementName tag :: s) ts) :
    Ending s (.start tag :: ts) := by
  obtain ⟨inside, us, rfl, h⟩ := h
  cases s with
  | nil =>
    obtain ⟨next, rfl⟩ := h
    exact ⟨Forest.element tag inside next, rfl⟩
  | cons name s =>
    obtain ⟨next, vs, rfl, h⟩ := h
    refine ⟨Forest.element tag inside next, vs, ?_, h⟩
    rw [tokens, List.cons_append, List.append_assoc, List.cons_append]

theorem ending_of_openAfter {ts : List Token} {s : List Text} (h : openAfter ts s = some []) : Ending s ts := by
  induction ts generalizing s with
  | nil =>
    cases h
    exact ⟨nil, rfl⟩
  | cons k ts ih =>
    obtain ⟨r, hr, h⟩ := Option.bind_eq_some_iff.mp h
    have hrest := ih h
    cases k with
    | char c =>
      cases hr
      exact hrest.char c
    | start tag =>
      cases hr
      exact hrest.element
    | stop name =>
      obtain rfl := Token.apply_stop hr
      exact ⟨nil, ts, rfl, hrest⟩
    | loose rest => cases hr

/-- Tokens that end their elements in order are those of a forest. -/
theorem exists_tokens {ts : List Token} (h : openAfter ts [] = some []) : ∃ f : Forest, ts = f.tokens :=
  ending_of_openAfter h

/-! ### Text -/

theorem text_tokensFrom (s : Option Text) (t : Text) : (tokensFrom s t).flatMap Token.text =
    (match s with
      | none => t
      | some r => '<' :: r.reverse ++ t) := by
  induction t generalizing s with
  | nil => cases s <;> simp [tokensFrom, Token.text]
  | cons c t ih =>
    cases s with
    | none =>
      rw [tokensFrom]
      split
      · rename_i hc
        rw [ih, hc]
        rfl
      · rw [List.flatMap_cons, ih]
        rfl
    | some r =>
      rw [tokensFrom]
      split
      · rename_i hc
        rw [List.flatMap_cons, ih, text_ofTag, hc]
        simp
      · rw [ih]
        simp

theorem text_tokens (t : Text) : (Markup.tokens t).flatMap Token.text = t := text_tokensFrom none t

/-! ### Elements of a name -/

/-- What is inside the outermost elements of a name, in their order. -/
def elements (name : Text) : Forest → List Forest
  | nil => []
  | char _ next => next.elements name
  | element tag inside next =>
    (if elementName tag = name then [inside] else inside.elements name) ++ next.elements name

end Forest
end Markup
end WikiArticle
