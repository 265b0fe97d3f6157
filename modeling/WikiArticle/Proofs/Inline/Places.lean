import WikiArticle.Proofs.Inline.Budget
import WikiArticle.Proofs.Inline.Linked
import WikiArticle.Proofs.Text.Scan

/-! Where marking up looks, in bytes. Every place that a search for links or for pairs passes, with the places that
    it tries and gives up, stands between two characters of the text. So each link and each pair can be cut out by the
    indices of its places, and what is written is put together from such slices. -/

namespace WikiArticle

namespace Turn
variable {σ α : Type}

/-- The loop that starts in `s` gets to a state. -/
inductive Reaches (turn : σ → Turn σ α) (s : σ) : σ → Prop
  | start : Reaches turn s s
  | next {t u : σ} : Reaches turn s t → turn t = .next u → Reaches turn s u

/-- What every turn keeps holds of each state that the loop gets to. -/
theorem Reaches.keeps (inv : σ → Prop) {turn : σ → Turn σ α} {s t : σ} (h : Reaches turn s t) (hs : inv s)
    (hkeeps : ∀ t u, inv t → turn t = .next u → inv u) : inv t := by
  induction h with
  | start => exact hs
  | next _ hturn ih => exact hkeeps _ _ ih hturn

end Turn

namespace Inline
open Cursor (StandsIn IsBoundary bytes slice? leadByte)

/-! ### Places passed -/

/-- The places that looking at a tag passes: where it is looked for, those up to its `>`, and the one behind. -/
inductive TagPlace (c : Cursor) : Cursor → Prop
  | here : TagPlace c c
  | inside {d : Cursor} : c.isAt '<' = true → Turn.Reaches (Cursor.seekTurn endsTag) c d → TagPlace c d
  | behind {g : Tag} {d : Cursor} : tag? c = some (g, d) → TagPlace c d

/-- The places that the search for a pair passes: those of its own turns, and those of the searches for a closing
    delimiter that start at its opening ones. -/
inductive PairPlace (k : Emphasis) (t : Text) : Cursor → Prop
  | opening {c d : Cursor} : Turn.Reaches k.pairTurn (.start t) c → TagPlace c d → PairPlace k t d
  | closing {c d : Cursor} {s : Emphasis.Search} : Turn.Reaches k.pairTurn (.start t) c →
      c.isAt k.delimiter = true → k.opens c = true → Turn.Reaches k.closerTurn ⟨c.skip 1, 0⟩ s →
      TagPlace s.place d → PairPlace k t d

/-- The places where marking up links looks for one. -/
inductive LinkTurn (t : Text) : Cursor → Prop
  | start : LinkTurn t (.start t)
  | next {c d : Cursor} {out : Text} : LinkTurn t c → linkTurn c = some (out, d) → LinkTurn t d

/-- The places that marking up links passes: where it looks for a link, and from an opening bracket on those of the
    url and of the words, whether they end in a closing bracket or not. -/
inductive LinkPlace (t : Text) : Cursor → Prop
  | here {c : Cursor} : LinkTurn t c → LinkPlace t c
  | url {c d : Cursor} : LinkTurn t c → c.isAt '[' = true →
      Turn.Reaches (Cursor.seekTurn LinkSpan.endsUrl) (c.skip 1) d → LinkPlace t d
  | words {c d : Cursor} : LinkTurn t c → c.isAt '[' = true →
      Turn.Reaches (Cursor.seekTurn LinkSpan.endsText) ((c.skip 1).skipUntil LinkSpan.endsUrl) d → LinkPlace t d

section
variable {t : Text} {c d : Cursor}

theorem standsIn_seekTurn {p : UInt8 → Bool} (h : StandsIn t c) (hd : Turn.Reaches (Cursor.seekTurn p) c d) :
    StandsIn t d := by
  refine hd.keeps (StandsIn t) h fun d e hd he => ?_
  unfold Cursor.seekTurn at he
  split at he
  · cases he
  · split at he
    · cases he
    · cases he
      exact hd.bump

theorem standsIn_skip_one {a : Char} (h : StandsIn t c) (hat : c.isAt a = true) (ha : a.utf8Size = 1) :
    StandsIn t (c.skip 1) :=
  ⟨(Cursor.spans_skip_one hat ha).text.trans h.text, by rw [Cursor.skip_one hat ha]⟩

theorem standsIn_tagPlace (h : StandsIn t c) (hd : TagPlace c d) : StandsIn t d := by
  cases hd with
  | here => exact h
  | inside _ hd => exact standsIn_seekTurn h hd
  | behind htag => exact ⟨(precedes_of_tag? htag).text.trans h.text, (tag?_some h.offset htag).1⟩

theorem standsIn_pairTurn {k : Emphasis} (hc : Turn.Reaches k.pairTurn (.start t) c) : StandsIn t c :=
  hc.keeps (StandsIn t) (.start t) fun _ _ h hnext =>
    ⟨(Emphasis.pairTurn_next hnext).1.text.trans h.text,
      (Emphasis.Searches.pairTurn ⟨h.offset, Nat.lt_succ_self _⟩ hnext).offset⟩

theorem standsIn_closerTurn {k : Emphasis} {s u : Emphasis.Search} (hs : StandsIn t s.place)
    (hu : Turn.Reaches k.closerTurn s u) : StandsIn t u.place :=
  hu.keeps (fun s => StandsIn t s.place) hs fun _ _ h hnext =>
    ⟨(Emphasis.closerTurn_next hnext).1.text.trans h.text,
      (Emphasis.Searches.closerTurn ⟨h.offset, Nat.lt_succ_self _⟩ hnext).offset⟩

theorem standsIn_pairPlace {k : Emphasis} (hd : PairPlace k t d) : StandsIn t d := by
  cases hd with
  | opening hc hd => exact standsIn_tagPlace (standsIn_pairTurn hc) hd
  | closing hc hat _ hs hd =>
    have hstart := standsIn_skip_one (standsIn_pairTurn hc) hat k.utf8Size_delimiter
    exact standsIn_tagPlace (standsIn_closerTurn hstart hs) hd

theorem standsIn_next? {a : Char} (h : StandsIn t c) (hd : c.next? = some (a, d)) : StandsIn t d := by
  obtain ⟨rest, -, -, rfl⟩ := Cursor.next?_eq_some.mp hd
  exact ⟨(Cursor.spans_of_next? hd).text.trans h.text, rfl⟩

end

/-! ### Links -/

namespace LinkSpan

theorem ulink_eq (s : LinkSpan) : s.ulink = Inline.ulink s.url s.text := rfl

/-- The places of a link in a text, in their order, with what lies between them. -/
structure LiesIn (t : Text) (s : LinkSpan) : Prop where
  opening : StandsIn t s.opening
  urlStart : StandsIn t s.urlStart
  urlStop : StandsIn t s.urlStop
  textStop : StandsIn t s.textStop
  closing : StandsIn t s.closing
  bracket : Cursor.Spans s.opening ['['] s.urlStart
  url : Cursor.Spans s.urlStart s.url s.urlStop
  words : ∃ w, Cursor.Spans s.urlStop w s.textStop
  closed : Cursor.Spans s.textStop [']'] s.closing

theorem liesIn_of_at? {t : Text} {c : Cursor} {s : LinkSpan} (h : StandsIn t c) (hs : at? c = some s) :
    s.LiesIn t := by
  simp only [at?] at hs
  split at hs
  · rename_i hopen
    split at hs
    · rename_i hclose
      cases hs
      have hstart := standsIn_skip_one h hopen rfl
      have hstop := hstart.skipUntil endsUrl
      have htext := hstop.skipUntil endsText
      obtain ⟨w, hw⟩ := Cursor.precedes_skipUntil endsUrl (c.skip 1)
      refine ⟨h, hstart, hstop, htext, standsIn_skip_one htext hclose rfl, Cursor.spans_skip_one hopen rfl, ?_,
        Cursor.precedes_skipUntil endsText _, Cursor.spans_skip_one hclose rfl⟩
      rw [LinkSpan.url, hw.upTo]
      exact hw
    · cases hs
  · cases hs

/-- The indices of a link are in order, with a bracket at either end. -/
theorem LiesIn.order {t : Text} {s : LinkSpan} (h : s.LiesIn t) : s.opening.pos < s.urlStart.pos ∧
    s.urlStart.pos ≤ s.urlStop.pos ∧ s.urlStop.pos ≤ s.textStop.pos ∧ s.textStop.pos < s.closing.pos := by
  obtain ⟨w, hw⟩ := h.words
  have hbracket := h.opening.pos_of_spans h.urlStart h.bracket
  have hurl := h.urlStart.pos_of_spans h.urlStop h.url
  have hwords := h.urlStop.pos_of_spans h.textStop hw
  have hclosed := h.textStop.pos_of_spans h.closing h.closed
  have hone (a : Char) : 0 < (bytes [a]).length := Cursor.length_bytes_pos (List.cons_ne_nil a [])
  have := hone '['
  have := hone ']'
  omega

end LinkSpan

/-- The links that are found from a place on, from left to right. -/
def linkSpansFrom (c : Cursor) : List LinkSpan :=
  match h : linkTurn c with
  | some (_, d) =>
    have : d.ahead.length < c.ahead.length := length_ahead_of_linkTurn h
    (LinkSpan.at? c).toList ++ linkSpansFrom d
  | none => []
termination_by c.ahead.length

/-- The links that are found in a text, from left to right. -/
def linkSpans (t : Text) : List LinkSpan := linkSpansFrom (.start t)

/-- The text from an index on with the links put for what they are found in, all cut out by indices. -/
def writeLinks? (t : Text) : Nat → List LinkSpan → Option Text
  | i, [] => slice? t i (bytes t).length
  | i, s :: ss => do
    let before ← slice? t i s.opening.pos
    let url ← slice? t s.urlStart.pos s.urlStop.pos
    let words ← slice? t s.urlStop.pos s.textStop.pos
    let behind ← writeLinks? t s.closing.pos ss
    return before ++ ulink url (Text.trim words) ++ behind

theorem linkTurn_some {c d : Cursor} {out : Text} (h : linkTurn c = some (out, d)) :
    (∃ s, LinkSpan.at? c = some s ∧ out = s.ulink ∧ d = s.closing) ∨
    LinkSpan.at? c = none ∧ ∃ a, c.next? = some (a, d) ∧ out = [a] := by
  unfold linkTurn at h
  split at h
  · rename_i s hs
    cases h
    exact Or.inl ⟨s, hs, rfl, rfl⟩
  · rename_i hs
    obtain ⟨⟨a, e⟩, hnext, he⟩ := Option.map_eq_some_iff.mp h
    cases he
    exact Or.inr ⟨hs, a, hnext, rfl⟩

section
variable {t : Text} {c d : Cursor}

theorem standsIn_linkTurn {out : Text} (h : StandsIn t c) (hd : linkTurn c = some (out, d)) : StandsIn t d := by
  rcases linkTurn_some hd with ⟨s, hs, -, rfl⟩ | ⟨-, a, hnext, -⟩
  · exact (LinkSpan.liesIn_of_at? h hs).closing
  · exact standsIn_next? h hnext

theorem ahead_of_linkTurn (h : StandsIn t c) (hnone : linkTurn c = none) : c.ahead = [] := by
  unfold linkTurn at hnone
  split at hnone
  · cases hnone
  · have hnext : c.next? = none := by simpa using hnone
    cases hahead : c.ahead with
    | nil => rfl
    | cons a rest =>
      have hsome : c.next? = some (a, ⟨a :: c.passed, rest, 0⟩) :=
        Cursor.next?_eq_some.mpr ⟨rest, h.offset, hahead, rfl⟩
      rw [hnext] at hsome
      cases hsome

theorem standsIn_linkPlace (hd : LinkPlace t d) : StandsIn t d := by
  have hturn {c : Cursor} (hc : LinkTurn t c) : StandsIn t c := by
    induction hc with
    | start => exact .start t
    | next _ hnext ih => exact standsIn_linkTurn ih hnext
  cases hd with
  | here hc => exact hturn hc
  | url hc hat hd => exact standsIn_seekTurn (standsIn_skip_one (hturn hc) hat rfl) hd
  | words hc hat hd => exact standsIn_seekTurn ((standsIn_skip_one (hturn hc) hat rfl).skipUntil _) hd

/-- The links that are found lie in the text one behind the other. -/
theorem linkSpansFrom_in_order (h : StandsIn t c) : (∀ s ∈ linkSpansFrom c, s.LiesIn t ∧ c.pos ≤ s.opening.pos) ∧
    (linkSpansFrom c).Pairwise fun a b => a.closing.pos ≤ b.opening.pos := by
  fun_induction linkSpansFrom c with
  | case1 c out d hturn _ ih =>
    obtain ⟨hbehind, hpair⟩ := ih (standsIn_linkTurn h hturn)
    rcases linkTurn_some hturn with ⟨s, hs, -, rfl⟩ | ⟨hs, a, hnext, -⟩
    · rw [hs, Option.toList_some, List.singleton_append]
      have hlies := LinkSpan.liesIn_of_at? h hs
      have horder := hlies.order
      have hopening : s.opening.pos = c.pos := by rw [LinkSpan.opening_of_at? hs]
      refine ⟨List.forall_mem_cons.mpr ⟨⟨hlies, Nat.le_of_eq hopening.symm⟩, fun u hu => ?_⟩,
        List.pairwise_cons.mpr ⟨fun u hu => (hbehind u hu).2, hpair⟩⟩
      have := (hbehind u hu).2
      exact ⟨(hbehind u hu).1, by omega⟩
    · rw [hs, Option.toList_none, List.nil_append]
      have hpos := h.pos_of_spans (standsIn_next? h hnext) (Cursor.spans_of_next? hnext)
      refine ⟨fun u hu => ?_, hpair⟩
      have := (hbehind u hu).2
      exact ⟨(hbehind u hu).1, by omega⟩
  | case2 => exact ⟨by simp, List.Pairwise.nil⟩

/-- With `w` the text that is still to be written, from `b` on, the slices put together the text from there on. -/
theorem writeLinks?_linkSpansFrom {b : Cursor} {w : Text} (hb : StandsIn t b) (hc : StandsIn t c)
    (hw : Cursor.Spans b w c) : writeLinks? t b.pos (linkSpansFrom c) = some (w ++ linksFrom c) := by
  fun_induction linkSpansFrom c generalizing b w with
  | case1 c out d hturn _ ih =>
    have hd := standsIn_linkTurn hc hturn
    rw [linksFrom_of_some hturn]
    rcases linkTurn_some hturn with ⟨s, hs, rfl, rfl⟩ | ⟨hs, a, hnext, rfl⟩
    · have hlies := LinkSpan.liesIn_of_at? hc hs
      obtain ⟨words, hwords⟩ := hlies.words
      have hbefore : slice? t b.pos s.opening.pos = some w := by
        rw [LinkSpan.opening_of_at? hs]
        exact Cursor.slice?_of_spans hb hc hw
      have hulink : s.ulink = ulink s.url (Text.trim words) := by
        rw [s.ulink_eq, LinkSpan.text, hwords.upTo]
      have hurl := Cursor.slice?_of_spans hlies.urlStart hlies.urlStop hlies.url
      have hslice := Cursor.slice?_of_spans hlies.urlStop hlies.textStop hwords
      have hbehind : writeLinks? t s.closing.pos (linkSpansFrom s.closing) = some (linksFrom s.closing) :=
        ih hd hd (Cursor.Spans.refl _)
      rw [hs, Option.toList_some, List.singleton_append, writeLinks?, hbefore, hurl, hslice, hbehind, hulink]
      exact congrArg some (List.append_assoc ..)
    · have hw' : Cursor.Spans b (w ++ [a]) d := hw.trans (Cursor.spans_of_next? hnext)
      rw [hs, Option.toList_none, List.nil_append, ih hb hd hw', List.append_assoc]
  | case2 c hturn =>
    have hend := ahead_of_linkTurn hc hturn
    rw [writeLinks?, ← hc.atEnd hend, Cursor.slice?_of_spans hb hc hw, linksFrom_of_none hturn, List.append_nil]

end

/-! ### Pairs -/

namespace Emphasis
variable {k : Emphasis} {t : Text} {p : Pair}

/-- The text with the tags of a kind put for the bytes at two indices, cut out by indices. -/
def replace? (k : Emphasis) (t : Text) (i j : Nat) : Option Text := do
  let before ← slice? t 0 i
  let inside ← slice? t (i + 1) j
  let after ← slice? t (j + 1) (bytes t).length
  return before ++ k.startTag ++ inside ++ k.endTag ++ after

theorem utf8EncodeChar_delimiter (k : Emphasis) : String.utf8EncodeChar k.delimiter = [leadByte k.delimiter] := by
  cases k <;> decide

theorem pos_skip_one {c : Cursor} (hc : StandsIn t c) (hat : c.isAt k.delimiter = true) :
    (c.skip 1).pos = c.pos + 1 := by
  rw [hc.pos_of_spans (standsIn_skip_one hc hat k.utf8Size_delimiter) (Cursor.spans_skip_one hat k.utf8Size_delimiter),
    Cursor.length_bytes_cons, k.utf8Size_delimiter]
  rfl

theorem byte_delimiter {c : Cursor} (hc : StandsIn t c) (hat : c.isAt k.delimiter = true) :
    (bytes t)[c.pos]? = some (leadByte k.delimiter) := by
  rw [← hc.byte?]
  exact (Cursor.byte?_eq_iff hc.offset (isAscii_delimiter k)).mpr hat

/-- The places of a pair in a text, with something between its delimiters. -/
structure Pair.LiesIn (p : Pair) (k : Emphasis) (t : Text) : Prop where
  opening : StandsIn t p.opening
  isAt_opening : p.opening.isAt k.delimiter = true
  closing : StandsIn t p.closing
  isAt_closing : p.closing.isAt k.delimiter = true
  inside : ∃ w ≠ [], Cursor.Spans (p.opening.skip 1) w p.closing

theorem liesIn_of_pair? (h : pair? k t = some p) : p.LiesIn k t := by
  obtain ⟨hprec, hpair⟩ := pairFrom_some h
  obtain ⟨-, hopen, hopens, hcloser⟩ := pairAt?_some hpair
  obtain ⟨⟨w, hw⟩, hclose, -⟩ := closerFrom_some hcloser
  have hskip := Cursor.skip_one hopen k.utf8Size_delimiter
  have htext : p.opening.text = t := hprec.text
  have hbehind := (Cursor.spans_skip_one hopen k.utf8Size_delimiter).text
  refine ⟨⟨htext, (Cursor.isAt_iff.mp hopen).1⟩, hopen,
    ⟨hw.text.trans (hbehind.trans htext), (Cursor.isAt_iff.mp hclose).1⟩, hclose, w, ?_, hw⟩
  -- With nothing between the two, the character behind the opening delimiter is a delimiter, and no content.
  rintro rfl
  obtain ⟨-, after, hahead⟩ := Cursor.isAt_iff.mp hclose
  have hchar : p.opening.charAfter 1 = some k.delimiter := by
    have hfirst : (p.opening.skip 1).ahead = k.delimiter :: after := hw.2.trans hahead
    rw [Cursor.charAfter, Cursor.char?, hfirst, hskip]
    rfl
  rw [opens, hchar, Option.any_some, not_isContent_delimiter] at hopens
  exact absurd hopens Bool.false_ne_true

namespace Pair.LiesIn

theorem apart (h : p.LiesIn k t) : p.opening.pos + 1 < p.closing.pos := by
  obtain ⟨w, hw, hspans⟩ := h.inside
  have hpos := (standsIn_skip_one h.opening h.isAt_opening k.utf8Size_delimiter).pos_of_spans h.closing hspans
  have := Cursor.length_bytes_pos hw
  rw [pos_skip_one h.opening h.isAt_opening] at hpos
  omega

theorem replace? (h : p.LiesIn k t) : k.replace? t p.opening.pos p.closing.pos = some (p.replace k) := by
  obtain ⟨w, -, hw⟩ := h.inside
  have hstart := standsIn_skip_one h.opening h.isAt_opening k.utf8Size_delimiter
  have hstop := standsIn_skip_one h.closing h.isAt_closing k.utf8Size_delimiter
  have hend : StandsIn t ⟨t.reverse, [], 0⟩ := ⟨by simp [Cursor.text], rfl⟩
  have hbefore : slice? t 0 p.opening.pos = some p.opening.passed.reverse :=
    Cursor.slice?_of_spans (.start t) h.opening ⟨by simp [Cursor.start], h.opening.text.symm⟩
  have hinside : slice? t (p.opening.pos + 1) p.closing.pos = some w := by
    rw [← pos_skip_one h.opening h.isAt_opening]
    exact Cursor.slice?_of_spans hstart h.closing hw
  have hafter : slice? t (p.closing.pos + 1) (bytes t).length = some p.closing.ahead.tail := by
    rw [← pos_skip_one h.closing h.isAt_closing, ← hend.atEnd rfl]
    refine Cursor.slice?_of_spans hstop hend ?_
    have htext := hstop.text
    rw [Cursor.skip_one h.isAt_closing k.utf8Size_delimiter] at htext ⊢
    rw [← htext]
    exact ⟨by simp [Cursor.text], by simp⟩
  rw [Emphasis.replace?, hbefore, hinside, hafter, Pair.replace, hw.upTo]
  simp

end Pair.LiesIn

end Emphasis

/-- Marking up looks only at places of the text that lie between characters. The indices of a link are in order, and a
    link begins where the one before ends or later; the indices of a pair are those of two delimiters of one byte with
    something between them. All slices by these indices are there, and what is written is made of them. -/
theorem places_between_characters (t : Text) :
    (∀ d, LinkPlace t d ∨ (∃ k, PairPlace k t d) → d.text = t ∧ d.pos ≤ (bytes t).length ∧ IsBoundary t d.pos) ∧
    (∀ s ∈ linkSpans t, s.opening.pos < s.urlStart.pos ∧ s.urlStart.pos ≤ s.urlStop.pos ∧
      s.urlStop.pos ≤ s.textStop.pos ∧ s.textStop.pos < s.closing.pos) ∧
    (linkSpans t).Pairwise (fun a b => a.closing.pos ≤ b.opening.pos) ∧
    writeLinks? t 0 (linkSpans t) = some (markUpLinks t) ∧
    ∀ k p, Emphasis.pair? k t = some p →
      String.utf8EncodeChar k.delimiter = [leadByte k.delimiter] ∧
      (bytes t)[p.opening.pos]? = some (leadByte k.delimiter) ∧
      (bytes t)[p.closing.pos]? = some (leadByte k.delimiter) ∧
      p.opening.pos + 1 < p.closing.pos ∧
      k.replace? t p.opening.pos p.closing.pos = some (p.replace k) := by
  obtain ⟨hlies, hpair⟩ := linkSpansFrom_in_order (.start t)
  refine ⟨fun d hd => ?_, fun s hs => (hlies s hs).1.order, hpair, ?_, fun k p hp => ?_⟩
  · have h : StandsIn t d := by
      rcases hd with hd | ⟨k, hd⟩
      · exact standsIn_linkPlace hd
      · exact standsIn_pairPlace hd
    exact ⟨h.text, h.isBoundary.le, h.isBoundary⟩
  · exact writeLinks?_linkSpansFrom (.start t) (.start t) (.refl _)
  · have h := Emphasis.liesIn_of_pair? hp
    exact ⟨k.utf8EncodeChar_delimiter, Emphasis.byte_delimiter h.opening h.isAt_opening,
      Emphasis.byte_delimiter h.closing h.isAt_closing, h.apart, h.replace?⟩

end Inline
end WikiArticle
