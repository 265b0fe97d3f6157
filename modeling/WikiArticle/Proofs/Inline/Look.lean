import WikiArticle.Proofs.Inline.Search
import WikiArticle.Proofs.Inline.Span

/-! The search for a pair, on marks. Of each mark the search asks whether it is a tag, a delimiter, white space
    or a letter or number, and nothing else; where an entity stands, its first and its last character answer
    like the character that it is written for. So the first pair of a text of marks is found from the looks
    of the marks alone, and marks that look alike are marked up alike. -/

namespace WikiArticle

/-- A loop that passes each of some characters in one turn passes them all. -/
theorem Turn.run_append {σ α : Type} {turn : σ → Turn σ α} {size : σ → Nat}
    {falls : ∀ s t, turn s = .next t → size t < size s} (place : Text → Text → σ) {w : Text}
    (h : ∀ c ∈ w, ∀ passed rest, turn (place passed (c :: rest)) = .next (place (c :: passed) rest)) (passed rest : Text) :
    run turn size falls (place passed (w ++ rest)) = run turn size falls (place (w.reverse ++ passed) rest) := by
  induction w generalizing passed with
  | nil => rfl
  | cons c w ih =>
    rw [List.cons_append, run_of_next (h c List.mem_cons_self passed (w ++ rest)), List.reverse_cons, List.append_assoc]
    exact ih (fun d hd => h d (List.mem_cons_of_mem c hd)) (c :: passed)

namespace Inline
open Markup

/-! ### Looks -/

/-- What the search for a pair sees of a mark. -/
structure Look where
  /-- The sort of tag that the mark is. -/
  tag : Option Tag
  /-- The kind of span that the mark is a delimiter of. -/
  delimiter : Option Emphasis
  /-- Whether the mark is white space. -/
  blank : Bool
  /-- Whether the mark is a letter or number. -/
  word : Bool
  deriving DecidableEq, Repr

namespace Look

/-- How a tag of a sort looks. -/
def ofTag (g : Tag) : Look := ⟨some g, none, false, false⟩

/-- How a character looks. -/
def ofChar (c : Char) : Look :=
  ⟨none, Emphasis.all.find? fun k => k.delimiter == c, Text.isBlank c, Text.isAlphanumeric c⟩

/-- Whether a mark can stand at the inner side of a delimiter. -/
def isContent (k : Emphasis) (l : Look) : Bool := !l.blank && l.delimiter != some k

theorem delimiter_ofChar_iff {c : Char} {k : Emphasis} : (ofChar c).delimiter = some k ↔ c = k.delimiter := by
  constructor
  · intro h
    have hfound := List.find?_some h
    exact (beq_iff_eq.mp hfound).symm
  · rintro rfl
    cases k <;> decide

theorem isContent_ofChar (k : Emphasis) (c : Char) : (ofChar c).isContent k = k.isContent c := by
  have hdelimiter : ((ofChar c).delimiter != some k) = (c != k.delimiter) := by
    rw [Bool.eq_iff_iff, bne_iff_ne, bne_iff_ne, ne_eq, delimiter_ofChar_iff]
  rw [isContent, hdelimiter]
  rfl

end Look

namespace Mark

/-- How a mark looks. The tags of links and those of spans look alike. -/
def look : Mark → Look
  | char c => Look.ofChar c
  | linkStart _ | start _ => Look.ofTag .start
  | linkStop | stop _ => Look.ofTag .stop

/-- A mark that looks like a tag is one, of the sort that its text says. -/
theorem text_of_tag {m : Mark} {g : Tag} (h : m.look.tag = some g) :
    ∃ w, '>' ∉ w ∧ m.text = '<' :: w ++ ['>'] ∧ g = if w.head? = some '/' then .stop else .start := by
  cases m with
  | char c => cases h
  | linkStart url =>
    cases h
    exact ⟨linkTag url, gt_notMem_linkTag url, rfl, rfl⟩
  | linkStop =>
    cases h
    exact ⟨"/ulink".toList, by decide, rfl, rfl⟩
  | start k =>
    cases h
    exact ⟨spanTag k, by cases k <;> decide, by cases k <;> rfl, by cases k <;> rfl⟩
  | stop k =>
    cases h
    exact ⟨'/' :: elementName (spanTag k), by cases k <;> decide, by cases k <;> decide, rfl⟩

theorem text_ne_nil (m : Mark) : m.text ≠ [] := by
  rcases text_cases m with ⟨c, rfl⟩ | ⟨w, -, hm⟩
  · exact entity_ne_nil c
  · rw [hm]
    simp

theorem textOf_delimiter (k : Emphasis) (ms : List Mark) :
    textOf (char k.delimiter :: ms) = k.delimiter :: textOf ms := by
  rw [textOf_cons, text_char, entity_of_notMem (delimiter_notMem_reserved k), List.singleton_append]

theorem reverse_text_delimiter (k : Emphasis) (passed : Text) :
    (char k.delimiter).text.reverse ++ passed = k.delimiter :: passed := by
  rw [text_char, entity_of_notMem (delimiter_notMem_reserved k)]
  rfl

theorem eq_char_of_delimiter {m : Mark} {k : Emphasis} (h : m.look.delimiter = some k) : m = char k.delimiter := by
  cases m with
  | char c => exact congrArg char (Look.delimiter_ofChar_iff.mp h)
  | _ => cases h

theorem char_of_no_tag {m : Mark} (h : m.look.tag = none) : ∃ c, m = char c := by
  cases m with
  | char c => exact ⟨c, rfl⟩
  | _ => cases h

end Mark

/-- A character, or its absence, answers the search like a mark, or like its absence. -/
structure Shows (l : Option Look) (c : Option Char) : Prop where
  content : ∀ k : Emphasis, c.any k.isContent = l.any (Look.isContent k)
  word : c.any Text.isAlphanumeric = l.any Look.word

namespace Shows

theorem none : Shows none none := ⟨fun _ => rfl, rfl⟩

theorem append {l : Option Look} {w : Text} (h : Shows l w.head?) (hw : w ≠ []) (t : Text) : Shows l (w ++ t).head? := by
  obtain ⟨a, w, rfl⟩ := List.exists_cons_of_ne_nil hw
  exact h

theorem ofChar (c : Char) : Shows (some (Look.ofChar c)) (some c) :=
  ⟨fun k => (Look.isContent_ofChar k c).symm, rfl⟩

/-- Both brackets of a tag answer like the tag, which is content and no letter or number. -/
theorem bracket (g : Tag) : Shows (some (Look.ofTag g)) (some '<') ∧ Shows (some (Look.ofTag g)) (some '>') := by
  cases g <;> constructor <;> constructor <;> first | decide | (intro k; cases k <;> decide)

theorem entity (c : Char) : Shows (some (Look.ofChar c)) (Inline.entity c).head? ∧
    Shows (some (Look.ofChar c)) (Inline.entity c).getLast? := by
  by_cases hc : c ∈ reserved
  · simp only [reserved, List.mem_cons, List.not_mem_nil, or_false] at hc
    rcases hc with rfl | rfl | rfl <;> constructor <;> constructor <;>
      first | decide | (intro k; cases k <;> decide)
  · rw [entity_of_notMem hc]
    exact ⟨ofChar c, ofChar c⟩

theorem text (m : Mark) : Shows (some m.look) m.text.head? ∧ Shows (some m.look) m.text.getLast? := by
  cases htag : m.look.tag with
  | none =>
    obtain ⟨c, rfl⟩ := Mark.char_of_no_tag htag
    exact entity c
  | some g =>
    obtain ⟨w, -, htext, -⟩ := Mark.text_of_tag htag
    have hlook : m.look = Look.ofTag g := by
      cases m <;> cases htag <;> rfl
    rw [htext, hlook, List.getLast?_concat]
    exact bracket g

theorem textOf (ms : List Mark) : Shows (ms.map Mark.look).head? (Mark.textOf ms).head? := by
  cases ms with
  | nil => exact ⟨fun k => rfl, rfl⟩
  | cons m ms =>
    rw [Mark.textOf_cons]
    exact (text m).1.append m.text_ne_nil _

theorem behind (m : Mark) (passed : Text) : Shows (some m.look) (m.text.reverse ++ passed).head? := by
  have hlast : Shows (some m.look) m.text.reverse.head? := by
    rw [List.head?_reverse]
    exact (text m).2
  exact hlast.append (mt List.reverse_eq_nil_iff.mp m.text_ne_nil) passed

end Shows

namespace Mark

/-- The place before the mark `i` of a text of marks that stands behind the characters `passed`. -/
def place (passed : Text) (ms : List Mark) (i : Nat) : Cursor :=
  ⟨(textOf (ms.take i)).reverse ++ passed, textOf (ms.drop i), 0⟩

theorem place_zero (passed : Text) (ms : List Mark) : place passed ms 0 = ⟨passed, textOf ms, 0⟩ := rfl

theorem place_succ (passed : Text) (m : Mark) (ms : List Mark) (i : Nat) :
    place passed (m :: ms) (i + 1) = place (m.text.reverse ++ passed) ms i := by
  simp [place]

end Mark

namespace Emphasis
variable {k : Emphasis}

/-! ### The search, told from looks -/

/-- How many marks stand before the first one where the span can close, for a search behind the mark `last`
    with `depth` elements started. -/
def closerAmong (k : Emphasis) : Nat → Look → List Look → Option Nat
  | _, _, [] => none
  | depth, last, l :: ls =>
    match l.tag, depth with
    | some .start, n => (closerAmong k (n + 1) l ls).map (· + 1)
    | some .stop, 0 => none
    | some .stop, n + 1 => (closerAmong k n l ls).map (· + 1)
    | none, n =>
      if l.delimiter = some k ∧ n = 0 ∧ last.isContent k = true ∧ ls.head?.any Look.word = false then some 0
      else (closerAmong k n l ls).map (· + 1)

section
variable {n : Nat} {last l : Look} {ls : List Look}

theorem closerAmong_start (h : l.tag = some .start) :
    closerAmong k n last (l :: ls) = (closerAmong k (n + 1) l ls).map (· + 1) := by
  simp only [closerAmong, h]

theorem closerAmong_stop_zero (h : l.tag = some .stop) : closerAmong k 0 last (l :: ls) = none := by
  simp only [closerAmong, h]

theorem closerAmong_stop_succ (h : l.tag = some .stop) :
    closerAmong k (n + 1) last (l :: ls) = (closerAmong k n l ls).map (· + 1) := by
  simp only [closerAmong, h]

theorem closerAmong_delimiter (h : l.tag = none) (hl : l.delimiter = some k ∧ n = 0 ∧ last.isContent k = true ∧
    ls.head?.any Look.word = false) : closerAmong k n last (l :: ls) = some 0 := by
  simp only [closerAmong, h, if_pos hl]

theorem closerAmong_pass (h : l.tag = none) (hl : ¬(l.delimiter = some k ∧ n = 0 ∧ last.isContent k = true ∧
    ls.head?.any Look.word = false)) : closerAmong k n last (l :: ls) = (closerAmong k n l ls).map (· + 1) := by
  simp only [closerAmong, h, if_neg hl]

end

/-- How many marks stand between the first of the marks and the delimiter that makes a pair with it. -/
def closerBehind (k : Emphasis) (last : Option Look) (l : Look) (ls : List Look) : Option Nat :=
  if l.delimiter = some k ∧ ls.head?.any (Look.isContent k) = true ∧ last.any Look.word = false
  then closerAmong k 0 l ls else none

/-- How many marks stand before either delimiter of the first pair. -/
def pairAmong (k : Emphasis) : Option Look → List Look → Option (Nat × Nat)
  | _, [] => none
  | last, l :: ls =>
    match closerBehind k last l ls with
    | some n => some (0, n + 1)
    | none => (pairAmong k (some l) ls).map fun p => (p.1 + 1, p.2 + 1)

/-! ### Turns of the search -/

theorem tag?_tag {w : Text} (h : '>' ∉ w) (passed rest : Text) : tag? ⟨passed, '<' :: w ++ '>' :: rest, 0⟩ =
    some (if w.head? = some '/' then .stop else .start, ⟨('<' :: w ++ ['>']).reverse ++ passed, rest, 0⟩) := by
  have hhead : (w ++ '>' :: rest).head? = some '/' ↔ w.head? = some '/' := by cases w <;> simp
  have hat : Cursor.isAt ⟨passed, '<' :: (w ++ '>' :: rest), 0⟩ '<' = true := rfl
  have hbehind := behindTag_whole h passed rest
  rw [List.cons_append] at hbehind ⊢
  simp only [tag?, hat, if_true, startsWith_stop, hhead, hbehind]
  simp

theorem tag?_mark {m : Mark} {g : Tag} (h : m.look.tag = some g) (passed : Text) (ms : List Mark) :
    tag? ⟨passed, Mark.textOf (m :: ms), 0⟩ = some (g, ⟨m.text.reverse ++ passed, Mark.textOf ms, 0⟩) := by
  obtain ⟨w, hw, hm, hg⟩ := Mark.text_of_tag h
  have htext : Mark.textOf (m :: ms) = '<' :: w ++ '>' :: Mark.textOf ms := by
    rw [Mark.textOf_cons, hm]
    simp
  rw [htext, tag?_tag hw, ← hg, hm]

theorem isAt_char {a c : Char} (h : c ≠ a) (passed rest : Text) : Cursor.isAt ⟨passed, c :: rest, 0⟩ a = false := by
  simpa [Cursor.isAt, Cursor.char?] using h

theorem tag?_char {c : Char} (h : c ≠ '<') (passed rest : Text) : tag? ⟨passed, c :: rest, 0⟩ = none := by
  simp [tag?, isAt_char h]

-- A text without brackets and delimiters is passed: an entity, or a character that is written as it is.
theorem closerFrom_append {w : Text} (hlt : '<' ∉ w) (hk : k.delimiter ∉ w) (passed rest : Text) (n : Nat) :
    closerFrom k ⟨⟨passed, w ++ rest, 0⟩, n⟩ = closerFrom k ⟨⟨w.reverse ++ passed, rest, 0⟩, n⟩ := by
  refine Turn.run_append (fun p r => (⟨⟨p, r, 0⟩, n⟩ : Search)) (fun c hc passed rest => ?_) passed rest
  have htag : tag? ⟨passed, c :: rest, 0⟩ = none := tag?_char (ne_of_mem_of_not_mem hc hlt) passed rest
  have hat : Cursor.isAt ⟨passed, c :: rest, 0⟩ k.delimiter = false :=
    isAt_char (ne_of_mem_of_not_mem hc hk) passed rest
  simp only [closerTurn, htag, hat, Bool.false_and]
  rfl

theorem pairFrom_append {w : Text} (hlt : '<' ∉ w) (hk : k.delimiter ∉ w) (passed rest : Text) :
    pairFrom k ⟨passed, w ++ rest, 0⟩ = pairFrom k ⟨w.reverse ++ passed, rest, 0⟩ := by
  refine Turn.run_append (fun p r => (⟨p, r, 0⟩ : Cursor)) (fun c hc passed rest => ?_) passed rest
  have htag : tag? ⟨passed, c :: rest, 0⟩ = none := tag?_char (ne_of_mem_of_not_mem hc hlt) passed rest
  have hat : Cursor.isAt ⟨passed, c :: rest, 0⟩ k.delimiter = false :=
    isAt_char (ne_of_mem_of_not_mem hc hk) passed rest
  simp only [pairTurn, pairAt?, htag, hat, Bool.false_and]
  rfl

theorem isAt_delimiter (passed rest : Text) : Cursor.isAt ⟨passed, k.delimiter :: rest, 0⟩ k.delimiter = true := by
  simp [Cursor.isAt, Cursor.char?]

theorem skip_delimiter (passed rest : Text) :
    Cursor.skip 1 ⟨passed, k.delimiter :: rest, 0⟩ = ⟨k.delimiter :: passed, rest, 0⟩ :=
  Cursor.skip_one (isAt_delimiter passed rest) k.utf8Size_delimiter

theorem charAfter_delimiter (passed rest : Text) :
    Cursor.charAfter 1 ⟨passed, k.delimiter :: rest, 0⟩ = rest.head? := by
  rw [Cursor.charAfter, skip_delimiter]
  rfl

theorem delimiter_notMem_entity {c : Char} (h : c ≠ k.delimiter) : k.delimiter ∉ entity c := fun hmem => by
  by_cases hc : c ∈ reserved
  · exact Mark.delimiter_notMem_entityChars k (mem_entityChars_of_mem_entity hc hmem)
  · rw [entity_of_notMem hc] at hmem
    exact h (List.mem_singleton.mp hmem).symm

/-! ### The search on marks -/

/-- A delimiter closes a span as the looks of its neighbours say. -/
theorem closes_mark (ms : List Mark) {passed : Text} {last : Option Look} (h : Shows last passed.head?) :
    k.closes ⟨passed, Mark.textOf (Mark.char k.delimiter :: ms), 0⟩ = true ↔
      last.any (Look.isContent k) = true ∧ (ms.map Mark.look).head?.any Look.word = false := by
  have hprev : Cursor.prev? ⟨passed, k.delimiter :: Mark.textOf ms, 0⟩ = passed.head? := rfl
  rw [Mark.textOf_delimiter, closes, charAfter_delimiter, hprev, h.content, (Shows.textOf ms).word, Bool.and_eq_true,
    Bool.not_eq_true']

/-- A delimiter opens a span as the looks of its neighbours say. -/
theorem opens_mark (ms : List Mark) {passed : Text} {last : Option Look} (h : Shows last passed.head?) :
    k.opens ⟨passed, Mark.textOf (Mark.char k.delimiter :: ms), 0⟩ = true ↔
      (ms.map Mark.look).head?.any (Look.isContent k) = true ∧ last.any Look.word = false := by
  have hprev : Cursor.prev? ⟨passed, k.delimiter :: Mark.textOf ms, 0⟩ = passed.head? := rfl
  rw [Mark.textOf_delimiter, opens, charAfter_delimiter, hprev, (Shows.textOf ms).content, h.word, Bool.and_eq_true,
    Bool.not_eq_true']

theorem closerTurn_mark (ms : List Mark) (passed : Text) (n : Nat) :
    closerTurn k ⟨⟨passed, Mark.textOf (Mark.char k.delimiter :: ms), 0⟩, n⟩ =
      if n = 0 ∧ k.closes ⟨passed, Mark.textOf (Mark.char k.delimiter :: ms), 0⟩ = true
      then .done (some ⟨passed, Mark.textOf (Mark.char k.delimiter :: ms), 0⟩)
      else .next ⟨⟨(Mark.char k.delimiter).text.reverse ++ passed, Mark.textOf ms, 0⟩, n⟩ := by
  simp only [Mark.textOf_delimiter, Mark.reverse_text_delimiter, closerTurn, tag?_char k.delimiter_ne_lt,
    isAt_delimiter, Bool.true_and, Bool.and_eq_true, beq_iff_eq]
  rfl

theorem map_place_succ (o : Option Nat) (passed : Text) (m : Mark) (ms : List Mark) :
    (o.map (· + 1)).map (Mark.place passed (m :: ms)) = o.map (Mark.place (m.text.reverse ++ passed) ms) := by
  cases o with
  | none => rfl
  | some i => exact congrArg some (Mark.place_succ passed m ms i)

/-- The closing delimiter of a span in a text of marks is told from the looks of the marks. -/
theorem closerFrom_textOf (ms : List Mark) {passed : Text} {last : Look} (h : Shows (some last) passed.head?) (n : Nat) :
    closerFrom k ⟨⟨passed, Mark.textOf ms, 0⟩, n⟩ =
      (closerAmong k n last (ms.map Mark.look)).map (Mark.place passed ms) := by
  induction ms generalizing passed last n with
  | nil => exact Turn.run_of_done rfl
  | cons m ms ih =>
    have hrest (n : Nat) := ih (Shows.behind m passed) n
    rw [List.map_cons]
    cases htag : m.look.tag with
    | some g =>
      have hpass := tag?_mark htag passed ms
      cases g with
      | start =>
        rw [closerFrom, Turn.run_of_next (by simp only [closerTurn, hpass]; rfl), ← closerFrom, hrest,
          closerAmong_start htag, map_place_succ]
      | stop =>
        cases n with
        | zero =>
          rw [closerFrom, Turn.run_of_done (by simp only [closerTurn, hpass]; rfl), closerAmong_stop_zero htag]
          rfl
        | succ n =>
          rw [closerFrom, Turn.run_of_next (by simp only [closerTurn, hpass]; rfl), ← closerFrom, hrest,
            closerAmong_stop_succ htag, map_place_succ]
    | none =>
      obtain ⟨c, rfl⟩ := Mark.char_of_no_tag htag
      by_cases hc : c = k.delimiter
      · subst hc
        have hd : (Look.ofChar k.delimiter).delimiter = some k := Look.delimiter_ofChar_iff.mpr rfl
        have hcloses := closes_mark (k := k) ms h
        have hturn := closerTurn_mark (k := k) ms passed n
        by_cases hl : n = 0 ∧ k.closes ⟨passed, Mark.textOf (Mark.char k.delimiter :: ms), 0⟩ = true
        · rw [closerFrom, Turn.run_of_done (hturn.trans (if_pos hl)),
            closerAmong_delimiter htag ⟨hd, hl.1, hcloses.mp hl.2⟩]
          rfl
        · rw [closerFrom, Turn.run_of_next (hturn.trans (if_neg hl)), ← closerFrom,
            closerAmong_pass htag fun h => hl ⟨h.2.1, hcloses.mpr h.2.2⟩, map_place_succ, ← hrest]
      · have hd : (Look.ofChar c).delimiter ≠ some k := fun e => hc (Look.delimiter_ofChar_iff.mp e)
        rw [closerAmong_pass htag fun hl => hd hl.1, map_place_succ, ← hrest, Mark.textOf_cons, Mark.text_char,
          closerFrom_append (Mark.lt_notMem_entity c) (delimiter_notMem_entity hc)]

/-- The pair whose delimiters stand before two of the marks. -/
def pairOf (passed : Text) (ms : List Mark) (p : Nat × Nat) : Pair :=
  ⟨Mark.place passed ms p.1, Mark.place passed ms p.2⟩

theorem map_pairOf_succ (o : Option (Nat × Nat)) (passed : Text) (m : Mark) (ms : List Mark) :
    (o.map fun p => (p.1 + 1, p.2 + 1)).map (pairOf passed (m :: ms)) =
      o.map (pairOf (m.text.reverse ++ passed) ms) := by
  cases o with
  | none => rfl
  | some p => simp only [Option.map_some, pairOf, Mark.place_succ]

theorem pairAt?_textOf (ms : List Mark) {passed : Text} {last : Option Look} (h : Shows last passed.head?) :
    k.pairAt? ⟨passed, Mark.textOf (Mark.char k.delimiter :: ms), 0⟩ =
      (closerBehind k last (Mark.char k.delimiter).look (ms.map Mark.look)).map fun n =>
        pairOf passed (Mark.char k.delimiter :: ms) (0, n + 1) := by
  have hd : (Mark.char k.delimiter).look.delimiter = some k := Look.delimiter_ofChar_iff.mpr rfl
  have hopens := opens_mark (k := k) ms h
  by_cases hl : (ms.map Mark.look).head?.any (Look.isContent k) = true ∧ last.any Look.word = false
  · have hclosing := closerFrom_textOf (k := k) ms (Shows.behind (Mark.char k.delimiter) passed) 0
    rw [Mark.reverse_text_delimiter] at hclosing
    rw [closerBehind, if_pos ⟨hd, hl⟩, pairAt?, hopens.mpr hl, Mark.textOf_delimiter, isAt_delimiter, Bool.true_and,
      if_pos rfl, closer?, skip_delimiter, hclosing, Option.map_map]
    refine Option.map_congr fun n _ => ?_
    simp only [Function.comp, pairOf, Mark.place_succ, Mark.place_zero, Mark.textOf_delimiter,
      Mark.reverse_text_delimiter]
  · have hnot : k.opens ⟨passed, Mark.textOf (Mark.char k.delimiter :: ms), 0⟩ = false :=
      Bool.eq_false_iff.mpr fun e => hl (hopens.mp e)
    rw [closerBehind, if_neg fun h => hl h.2, pairAt?, hnot, Bool.and_false]
    rfl

theorem pairFrom_textOf (ms : List Mark) {passed : Text} {last : Option Look} (h : Shows last passed.head?) :
    pairFrom k ⟨passed, Mark.textOf ms, 0⟩ = (pairAmong k last (ms.map Mark.look)).map (pairOf passed ms) := by
  induction ms generalizing passed last with
  | nil => exact Turn.run_of_done rfl
  | cons m ms ih =>
    have hrest := ih (Shows.behind m passed)
    have hbehind : ∀ l : Look, l.delimiter ≠ some k → closerBehind k last l (ms.map Mark.look) = none :=
      fun l hl => if_neg fun h => hl h.1
    rw [List.map_cons, pairAmong]
    cases htag : m.look.tag with
    | some g =>
      have hd : m.look.delimiter ≠ some k := by cases m <;> cases htag <;> nofun
      rw [pairFrom, Turn.run_of_next (by simp only [pairTurn, tag?_mark htag passed ms]; rfl), ← pairFrom, hrest,
        hbehind _ hd, map_pairOf_succ]
    | none =>
      obtain ⟨c, rfl⟩ := Mark.char_of_no_tag htag
      by_cases hc : c = k.delimiter
      · subst hc
        have hat := pairAt?_textOf (k := k) ms h
        have htag? : tag? ⟨passed, Mark.textOf (Mark.char k.delimiter :: ms), 0⟩ = none := by
          rw [Mark.textOf_delimiter, tag?_char k.delimiter_ne_lt]
        have hpass : pass ⟨passed, Mark.textOf (Mark.char k.delimiter :: ms), 0⟩ =
            some ⟨(Mark.char k.delimiter).text.reverse ++ passed, Mark.textOf ms, 0⟩ := by
          rw [Mark.textOf_delimiter, Mark.reverse_text_delimiter]
          rfl
        cases hn : closerBehind k last (Mark.char k.delimiter).look (ms.map Mark.look) with
        | some n =>
          rw [hn] at hat
          exact Turn.run_of_done (by simp only [pairTurn, htag?, hat]; rfl)
        | none =>
          rw [hn] at hat
          rw [pairFrom, Turn.run_of_next (by simp only [pairTurn, htag?, hat, hpass]; rfl), ← pairFrom, hrest,
            map_pairOf_succ]
      · have hd : (Mark.char c).look.delimiter ≠ some k := fun e => hc (Look.delimiter_ofChar_iff.mp e)
        rw [hbehind _ hd, map_pairOf_succ, ← hrest, Mark.textOf_cons, Mark.text_char,
          pairFrom_append (Mark.lt_notMem_entity c) (delimiter_notMem_entity hc)]

/-! ### The pair among the marks -/

theorem closerAmong_some {n i : Nat} {last : Look} {ls : List Look} (h : closerAmong k n last ls = some i) :
    ∃ bs b cs, ls = bs ++ b :: cs ∧ bs.length = i ∧ b.delimiter = some k := by
  induction ls generalizing n last i with
  | nil => cases h
  | cons l ls ih =>
    have hrest {n i : Nat} (h : (closerAmong k n l ls).map (· + 1) = some i) :
        ∃ bs b cs, l :: ls = bs ++ b :: cs ∧ bs.length = i ∧ b.delimiter = some k := by
      obtain ⟨m, hm, rfl⟩ := Option.map_eq_some_iff.mp h
      obtain ⟨bs, b, cs, rfl, rfl, hb⟩ := ih hm
      exact ⟨l :: bs, b, cs, rfl, rfl, hb⟩
    simp only [closerAmong] at h
    split at h
    · exact hrest h
    · cases h
    · exact hrest h
    · split at h
      · rename_i hl
        cases h
        exact ⟨[], l, ls, rfl, rfl, hl.1⟩
      · exact hrest h

theorem pairAmong_some {p : Nat × Nat} {last : Option Look} {ls : List Look} (h : pairAmong k last ls = some p) :
    ∃ as a bs b cs, ls = as ++ a :: (bs ++ b :: cs) ∧ p = (as.length, as.length + 1 + bs.length) ∧
      a.delimiter = some k ∧ b.delimiter = some k := by
  induction ls generalizing last p with
  | nil => cases h
  | cons l ls ih =>
    rw [pairAmong] at h
    split at h
    · rename_i n hn
      cases h
      rw [closerBehind] at hn
      split at hn
      · rename_i hl
        obtain ⟨bs, b, cs, rfl, rfl, hb⟩ := closerAmong_some hn
        exact ⟨[], l, bs, b, cs, rfl, by simp [Nat.add_comm], hl.1, hb⟩
      · cases hn
    · obtain ⟨q, hq, rfl⟩ := Option.map_eq_some_iff.mp h
      obtain ⟨as, a, bs, b, cs, rfl, rfl, ha, hb⟩ := ih hq
      exact ⟨l :: as, a, bs, b, cs, rfl, by simp; omega, ha, hb⟩

/-- The marks with the two delimiters of a pair turned into tags. -/
def put (k : Emphasis) (p : Nat × Nat) (ms : List Mark) : List Mark :=
  (ms.set p.1 (.start k)).set p.2 (.stop k)

/-- The first pair of a text of marks is told from the looks of the marks. -/
theorem pair?_textOf (ms : List Mark) :
    pair? k (Mark.textOf ms) = (pairAmong k none (ms.map Mark.look)).map (pairOf [] ms) :=
  pairFrom_textOf ms Shows.none

theorem replace_pairOf {ms : List Mark} {p : Nat × Nat} (h : pairAmong k none (ms.map Mark.look) = some p) :
    (pairOf [] ms p).replace k = Mark.textOf (put k p ms) := by
  obtain ⟨las, la, lbs, lb, lcs, hlooks, rfl, ha, hb⟩ := pairAmong_some h
  obtain ⟨as, rest, rfl, rfl, hopening⟩ := List.map_eq_append_iff.mp hlooks
  obtain ⟨a, inside, rfl, rfl, hinside⟩ := List.map_eq_cons_iff.mp hopening
  obtain ⟨bs, behind, rfl, rfl, hclosing⟩ := List.map_eq_append_iff.mp hinside
  obtain ⟨b, cs, rfl, rfl, rfl⟩ := List.map_eq_cons_iff.mp hclosing
  rw [Mark.eq_char_of_delimiter ha, Mark.eq_char_of_delimiter hb, List.length_map, List.length_map]
  have hcut : (pairOf [] (as ++ Mark.char k.delimiter :: (bs ++ Mark.char k.delimiter :: cs))
      (as.length, as.length + 1 + bs.length)).Cuts k (Mark.textOf as) (Mark.textOf bs) (Mark.textOf cs) := by
    constructor
    · simp only [pairOf, Mark.place, List.take_left, List.drop_left, Mark.textOf_delimiter, Mark.textOf_append,
        List.append_nil]
    · have hlength : as.length + 1 + bs.length = (as ++ Mark.char k.delimiter :: bs).length := by
        rw [List.length_append, List.length_cons, Nat.add_assoc, Nat.add_comm 1]
      have hsplit : as ++ Mark.char k.delimiter :: (bs ++ Mark.char k.delimiter :: cs) =
          (as ++ Mark.char k.delimiter :: bs) ++ Mark.char k.delimiter :: cs := by simp
      simp only [pairOf, Mark.place]
      rw [hsplit, hlength, List.take_left, List.drop_left, Mark.textOf_delimiter, Mark.textOf_append,
        Mark.textOf_delimiter]
      simp
  rw [hcut.replace, put, set_set_append]
  simp only [Mark.textOf_append, Mark.textOf_cons, Mark.text_start, Mark.text_stop, List.append_assoc]

end Emphasis
end Inline
end WikiArticle
