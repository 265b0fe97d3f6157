import WikiArticle.Text.Cursor.Order

/-! Links. A span `[url text]` becomes a `ulink` element: the url ends at the first space, quote or
    closing bracket, the text is what follows up to the closing bracket, without white space at its ends.
    Spans are taken from left to right, each from the first bracket that is closed later on, and a
    bracket that nothing closes is text. -/

namespace WikiArticle
namespace Inline

/-- A link span, by its places in the text. -/
structure LinkSpan where
  /-- The place of the opening bracket. -/
  opening : Cursor
  /-- The place where the url begins. -/
  urlStart : Cursor
  /-- The place where the url ends and the text begins. -/
  urlStop : Cursor
  /-- The place of the closing bracket, where the text ends. -/
  textStop : Cursor
  /-- The place behind the closing bracket. -/
  closing : Cursor
  deriving DecidableEq, Repr

namespace LinkSpan

/-- Whether a byte is that of a space, a quote or a closing bracket. -/
def endsUrl (b : UInt8) : Bool :=
  b == Cursor.leadByte ' ' || b == Cursor.leadByte '"' || b == Cursor.leadByte ']'

/-- Whether a byte is that of a closing bracket. -/
def endsText (b : UInt8) : Bool := b == Cursor.leadByte ']'

/-- The link span that begins at a place. -/
def at? (c : Cursor) : Option LinkSpan :=
  if c.isAt '[' then
    let urlStart := c.skip 1
    let urlStop := urlStart.skipUntil endsUrl
    let textStop := urlStop.skipUntil endsText
    if textStop.isAt ']' then some ⟨c, urlStart, urlStop, textStop, textStop.skip 1⟩ else none
  else none

/-- The target of the link. -/
def url (s : LinkSpan) : Text := s.urlStart.upTo s.urlStop

/-- The words of the link. -/
def text (s : LinkSpan) : Text := Text.trim (s.urlStop.upTo s.textStop)

/-- The element that stands for the link. -/
def ulink (s : LinkSpan) : Text :=
  "<ulink url=\"".toList ++ s.url ++ "\">".toList ++ s.text ++ "</ulink>".toList

theorem opening_of_at? {c : Cursor} {s : LinkSpan} (h : at? c = some s) : s.opening = c := by
  simp only [at?] at h
  split at h
  · split at h
    · cases h; rfl
    · cases h
  · cases h

theorem length_ahead_of_at? {c : Cursor} {s : LinkSpan} (h : at? c = some s) :
    s.closing.ahead.length < c.ahead.length := by
  simp only [at?] at h
  split at h
  · rename_i hc
    split at h
    · cases h
      have h1 := (Cursor.spans_skip_one hc rfl).2
      have h2 := (Cursor.precedes_skipUntil endsUrl (c.skip 1)).trans
        ((Cursor.precedes_skipUntil endsText _).trans (Cursor.precedes_skip 1 _))
      have h3 := h2.length_ahead_le
      simp only [h1, List.length_append, List.length_cons, List.length_nil]
      omega
    · cases h
  · cases h

end LinkSpan

/-- What is written for the text at a place, and the place to go on from: the element and the end of a
    link span that begins there, else one character. -/
def linkTurn (c : Cursor) : Option (Text × Cursor) :=
  match LinkSpan.at? c with
  | some s => some (s.ulink, s.closing)
  | none => c.next?.map fun (a, d) => ([a], d)

theorem length_ahead_of_linkTurn {c d : Cursor} {out : Text} (h : linkTurn c = some (out, d)) :
    d.ahead.length < c.ahead.length := by
  unfold linkTurn at h
  split at h
  · rename_i s hs
    cases h
    exact LinkSpan.length_ahead_of_at? hs
  · simp only [Option.map_eq_some_iff, Prod.exists] at h
    obtain ⟨a, e, he, h⟩ := h
    cases h
    exact Cursor.length_ahead_of_next? he

/-- The text from a place on with its links marked up. -/
def linksFrom (c : Cursor) : Text :=
  match h : linkTurn c with
  | some (out, d) =>
    have : d.ahead.length < c.ahead.length := length_ahead_of_linkTurn h
    out ++ linksFrom d
  | none => []
termination_by c.ahead.length

theorem linksFrom_of_some {c d : Cursor} {out : Text} (h : linkTurn c = some (out, d)) :
    linksFrom c = out ++ linksFrom d := by
  rw [linksFrom]
  split
  · rename_i o e he
    rw [h] at he
    cases he
    rfl
  · rename_i he
    rw [h] at he
    cases he

theorem linksFrom_of_none {c : Cursor} (h : linkTurn c = none) : linksFrom c = [] := by
  rw [linksFrom]
  split
  · rename_i o e he
    rw [h] at he
    cases he
  · rfl

/-- The text with its links marked up. -/
def markUpLinks (t : Text) : Text := linksFrom (Cursor.start t)

end Inline
end WikiArticle
