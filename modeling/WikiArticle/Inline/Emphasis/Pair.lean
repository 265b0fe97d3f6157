import WikiArticle.Inline.Emphasis.Kind
import WikiArticle.Text.Alphanumeric
import WikiArticle.Text.Cursor.Order
import WikiArticle.Text.Turn

/-! The delimiters of one emphasised span. A tag runs from `<` to the next `>`, and no delimiter inside
    a tag counts. A delimiter opens a span when content follows it and no letter or number stands before
    it; it closes one when content stands before it and no letter or number follows. The two delimiters
    of a pair stand in the same element: the tags between them are balanced, and none of them ends an
    element that the opening delimiter stands in. The first delimiter that opens a span and finds a
    closing one makes the pair, with the first closing one it finds. -/

namespace WikiArticle
namespace Inline

/-! ### Tags -/

/-- Whether a tag starts or ends an element. -/
inductive Tag where
  | start
  | stop
  deriving DecidableEq, Repr

/-- Whether a byte is that of the bracket that ends a tag. -/
def endsTag (b : UInt8) : Bool := b == Cursor.leadByte '>'

/-- The place behind the tag that begins at a place: behind its `>`, or the end if it has none. -/
def behindTag (c : Cursor) : Cursor :=
  let d := c.skipUntil endsTag
  (d.next?.map Prod.snd).getD d

/-- The tag that begins at a place, and the place behind it. -/
@[inline]
def tag? (c : Cursor) : Option (Tag × Cursor) :=
  if c.isAt '<' then some (if c.startsWith ['<', '/'] then .stop else .start, behindTag c) else none

theorem precedes_behindTag (c : Cursor) : c.Precedes (behindTag c) := by
  have h := Cursor.precedes_skipUntil endsTag c
  simp only [behindTag]
  cases hn : (c.skipUntil endsTag).next? with
  | none => exact h
  | some p => exact h.trans ⟨_, Cursor.spans_of_next? (a := p.1) (d := p.2) hn⟩

theorem precedes_of_tag? {c d : Cursor} {t : Tag} (h : tag? c = some (t, d)) : c.Precedes d := by
  unfold tag? at h
  split at h
  · cases h
    exact precedes_behindTag c
  · cases h

theorem length_ahead_of_tag? {c d : Cursor} {t : Tag} (h : tag? c = some (t, d)) :
    d.ahead.length < c.ahead.length := by
  unfold tag? at h
  split at h
  · rename_i hc
    cases h
    obtain ⟨passed, ahead, offset⟩ := c
    obtain ⟨h0, rest, ha⟩ := Cursor.isAt_iff.mp hc
    simp only at h0 ha
    subst h0 ha
    have hs : Cursor.skipUntil endsTag ⟨passed, '<' :: rest, 0⟩ = Cursor.seek endsTag ('<' :: passed) rest := by
      have hb : endsTag (Cursor.leadByte '<') = false := by decide
      simp [Cursor.skipUntil, Cursor.seek, hb]
    have hp := (Cursor.precedes_seek endsTag ('<' :: passed) rest 0).length_ahead_le
    simp only [behindTag, hs]
    cases hn : (Cursor.seek endsTag ('<' :: passed) rest).next? with
    | none =>
      simp only [List.length_cons, Option.map_none, Option.getD_none]
      exact Nat.lt_succ_of_le hp
    | some p =>
      have := Cursor.length_ahead_of_next? (a := p.1) (d := p.2) hn
      simp only [List.length_cons, Option.map_some, Option.getD_some]
      exact Nat.lt_succ_of_le (Nat.le_of_lt (Nat.lt_of_lt_of_le this hp))
  · cases h

namespace Emphasis

/-! ### Delimiters -/

/-- Whether a character can stand at the inner side of a delimiter: neither white space nor the
    delimiter itself. -/
def isContent (k : Emphasis) (c : Char) : Bool := !Text.isBlank c && c != k.delimiter

/-- Whether a span can open at the delimiter that begins at `c`. -/
def opens (k : Emphasis) (c : Cursor) : Bool :=
  (c.charAfter 1).any k.isContent && !c.prev?.any Text.isAlphanumeric

/-- Whether a span can close at the delimiter that begins at `c`. -/
def closes (k : Emphasis) (c : Cursor) : Bool :=
  c.prev?.any k.isContent && !(c.charAfter 1).any Text.isAlphanumeric

/-! ### The closing delimiter -/

/-- The state of the search for a closing delimiter. -/
structure Search where
  /-- The place that is looked at next. -/
  place : Cursor
  /-- The number of elements started and not yet ended since the opening delimiter. -/
  depth : Nat
  deriving DecidableEq, Repr

/-- Goes on behind the character at a place, or stops at the end. -/
@[inline]
def pass (c : Cursor) : Option Cursor := c.next?.map Prod.snd

/-- One turn of the search for a closing delimiter: over a tag or a character, or to the answer. -/
@[inline]
def closerTurn (k : Emphasis) (s : Search) : Turn Search (Option Cursor) :=
  match tag? s.place, s.depth with
  | some (.start, d), n => .next ⟨d, n + 1⟩
  | some (.stop, _), 0 => .done none
  | some (.stop, d), n + 1 => .next ⟨d, n⟩
  | none, n =>
    if s.place.isAt k.delimiter && n == 0 && k.closes s.place then .done (some s.place)
    else match pass s.place with
      | some d => .next ⟨d, n⟩
      | none => .done none

theorem pass_eq_some {c d : Cursor} (h : pass c = some d) : ∃ a, c.next? = some (a, d) := by
  simpa [pass] using h

theorem closerTurn_next {k : Emphasis} {s t : Search} (h : closerTurn k s = .next t) :
    s.place.Precedes t.place ∧ t.place.ahead.length < s.place.ahead.length := by
  unfold closerTurn at h
  split at h
  · rename_i ht
    cases h
    exact ⟨precedes_of_tag? ht, length_ahead_of_tag? ht⟩
  · cases h
  · rename_i ht _
    cases h
    exact ⟨precedes_of_tag? ht, length_ahead_of_tag? ht⟩
  · split at h
    · cases h
    · split at h
      · rename_i hd
        cases h
        obtain ⟨a, hd⟩ := pass_eq_some hd
        exact ⟨⟨_, Cursor.spans_of_next? hd⟩, Cursor.length_ahead_of_next? hd⟩
      · cases h

/-- The first place from `s` on where the span can close. -/
def closerFrom (k : Emphasis) (s : Search) : Option Cursor :=
  Turn.run (closerTurn k) (fun s => s.place.ahead.length) (fun _ _ h => (closerTurn_next h).2) s

/-- The closing delimiter of the span that the delimiter at `c` opens. -/
def closer? (k : Emphasis) (c : Cursor) : Option Cursor := closerFrom k ⟨c.skip 1, 0⟩

/-! ### The pair -/

/-- The two delimiters of a span, by their places. -/
structure Pair where
  opening : Cursor
  closing : Cursor
  deriving DecidableEq, Repr

/-- The pair whose opening delimiter stands at `c`. -/
def pairAt? (k : Emphasis) (c : Cursor) : Option Pair :=
  if c.isAt k.delimiter && k.opens c then (k.closer? c).map (⟨c, ·⟩) else none

/-- One turn of the search for a pair: over a tag or a character, or to the answer. -/
@[inline]
def pairTurn (k : Emphasis) (c : Cursor) : Turn Cursor (Option Pair) :=
  match tag? c with
  | some (_, d) => .next d
  | none =>
    match k.pairAt? c, pass c with
    | some p, _ => .done (some p)
    | none, some d => .next d
    | none, none => .done none

theorem pairTurn_next {k : Emphasis} {c d : Cursor} (h : pairTurn k c = .next d) :
    c.Precedes d ∧ d.ahead.length < c.ahead.length := by
  unfold pairTurn at h
  split at h
  · rename_i ht
    cases h
    exact ⟨precedes_of_tag? ht, length_ahead_of_tag? ht⟩
  · split at h
    · cases h
    · rename_i hd
      cases h
      obtain ⟨a, hd⟩ := pass_eq_some hd
      exact ⟨⟨_, Cursor.spans_of_next? hd⟩, Cursor.length_ahead_of_next? hd⟩
    · cases h

/-- The first pair from a place on. -/
def pairFrom (k : Emphasis) (c : Cursor) : Option Pair :=
  Turn.run (pairTurn k) (fun c => c.ahead.length) (fun _ _ h => (pairTurn_next h).2) c

/-- The first pair of a text. -/
def pair? (k : Emphasis) (t : Text) : Option Pair := pairFrom k (Cursor.start t)

/-! ### What a pair is -/

/-- The text is cut by the pair in three, at two delimiters. -/
structure Pair.Cuts (p : Pair) (k : Emphasis) (before inside after : Text) : Prop where
  opening : p.opening = ⟨before.reverse, k.delimiter :: (inside ++ k.delimiter :: after), 0⟩
  closing : p.closing = ⟨inside.reverse ++ k.delimiter :: before.reverse, k.delimiter :: after, 0⟩

theorem closerFrom_some {k : Emphasis} {s : Search} {c : Cursor} (h : closerFrom k s = some c) :
    s.place.Precedes c ∧ c.isAt k.delimiter = true ∧ k.closes c = true := by
  refine Turn.run_induct (fun t => s.place.Precedes t.place)
    (fun a => ∀ c, a = some c → s.place.Precedes c ∧ c.isAt k.delimiter = true ∧ k.closes c = true)
    (fun t u ht hu => ht.trans (closerTurn_next hu).1)
    (fun t a ht ha c hc => by
      subst hc
      unfold closerTurn at ha
      split at ha <;> try cases ha
      split at ha
      · rename_i hd
        cases ha
        simp only [Bool.and_eq_true] at hd
        exact ⟨ht, hd.1.1, hd.2⟩
      · split at ha <;> cases ha)
    (Cursor.Precedes.refl s.place) c h

theorem pairAt?_some {k : Emphasis} {c : Cursor} {p : Pair} (h : pairAt? k c = some p) :
    p.opening = c ∧ c.isAt k.delimiter = true ∧ k.opens c = true ∧ k.closer? c = some p.closing := by
  unfold pairAt? at h
  split at h
  · rename_i hc
    obtain ⟨d, hd, rfl⟩ := Option.map_eq_some_iff.mp h
    simp only [Bool.and_eq_true] at hc
    exact ⟨rfl, hc.1, hc.2, hd⟩
  · cases h

theorem pairFrom_some {k : Emphasis} {c : Cursor} {p : Pair} (h : pairFrom k c = some p) :
    c.Precedes p.opening ∧ pairAt? k p.opening = some p := by
  refine Turn.run_induct (fun d => c.Precedes d)
    (fun a => ∀ p, a = some p → c.Precedes p.opening ∧ pairAt? k p.opening = some p)
    (fun d e hd he => hd.trans (pairTurn_next he).1)
    (fun d a hd ha p hp => by
      subst hp
      unfold pairTurn at ha
      split at ha
      · cases ha
      · split at ha
        · rename_i hq
          cases ha
          rw [(pairAt?_some hq).1]
          exact ⟨hd, hq⟩
        · cases ha
        · cases ha)
    (Cursor.Precedes.refl c) p h

theorem cuts_of_pairAt? {k : Emphasis} {c : Cursor} {p : Pair} (h : pairAt? k c = some p) :
    ∃ inside after, p.Cuts k c.passed.reverse inside after := by
  obtain ⟨ho, hc, -, hp⟩ := pairAt?_some h
  obtain ⟨hprec, hd, -⟩ := closerFrom_some hp
  rw [Cursor.skip_one hc k.utf8Size_delimiter] at hprec
  obtain ⟨opening, ⟨passed, ahead, offset⟩⟩ := p
  obtain ⟨hd0, after, hda⟩ := Cursor.isAt_iff.mp hd
  obtain ⟨hc0, rest, hca⟩ := Cursor.isAt_iff.mp hc
  obtain ⟨w, hw⟩ := hprec
  obtain ⟨cp, ca, co⟩ := c
  simp only [Cursor.Spans] at ho hd0 hda hc0 hca hw
  obtain ⟨hw1, hw2⟩ := hw
  subst ho hd0 hda hc0 hca hw1
  simp only [List.tail_cons] at hw2
  subst hw2
  exact ⟨w, after, by simp, by simp⟩

theorem cuts_of_pair? {k : Emphasis} {t : Text} {p : Pair} (h : pair? k t = some p) :
    ∃ before inside after, p.Cuts k before inside after ∧
      t = before ++ k.delimiter :: inside ++ k.delimiter :: after := by
  obtain ⟨hprec, hp⟩ := pairFrom_some h
  obtain ⟨inside, after, hcut⟩ := cuts_of_pairAt? hp
  refine ⟨_, inside, after, hcut, ?_⟩
  have ht := hprec.text
  rw [hcut.opening] at ht
  simpa [Cursor.text, Cursor.start] using ht.symm

end Emphasis
end Inline
end WikiArticle
