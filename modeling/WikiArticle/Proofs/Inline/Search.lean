import WikiArticle.Proofs.Inline.Pair
import WikiArticle.Proofs.Markup.Forest
import WikiArticle.Proofs.Markup.Level

/-! The search for a pair, told from the tokens of the text. Two delimiters can make a pair when the tokens
    beside them let the first open and the second close a span, and what lies between them is balanced.
    Every pair that the search finds is of this kind, and if there are two such delimiters anywhere the
    search does not come back without a pair. -/

namespace WikiArticle
namespace Markup
open Token

/-! ### The ends of a token -/

/-- The first character of the text of a token. -/
def Token.first : Token → Char
  | .char c => c
  | _ => '<'

/-- The last character of the text of a token. -/
def Token.last : Token → Char
  | .char c => c
  | .loose rest => rest.getLast?.getD '<'
  | _ => '>'

theorem head?_text (k : Token) : k.text.head? = some k.first := by cases k <;> rfl

theorem getLast?_text (k : Token) : k.text.getLast? = some k.last := by
  cases k with
  | char c => rfl
  | start inside => exact List.getLast?_concat
  | stop name => exact List.getLast?_concat
  | loose rest => simp [Token.text, Token.last, List.getLast?_cons]

theorem head?_flatMap_text (ts : List Token) : (ts.flatMap Token.text).head? = ts.head?.map Token.first := by
  cases ts with
  | nil => rfl
  | cons k ts => simp [head?_text]

theorem getLast?_flatMap_text (ts : List Token) : (ts.flatMap Token.text).getLast? = ts.getLast?.map Token.last := by
  rcases List.eq_nil_or_concat ts with rfl | ⟨ts, k, rfl⟩
  · rfl
  · simp [getLast?_text]

theorem head?_tokens (t : Text) : t.head? = (tokens t).head?.map Token.first := by
  rw [← head?_flatMap_text, Forest.text_tokens]

theorem getLast?_tokens (t : Text) : t.getLast? = (tokens t).getLast?.map Token.last := by
  rw [← getLast?_flatMap_text, Forest.text_tokens]

end Markup

namespace Inline
open Markup

/-! ### Places between tokens -/

/-- The cursor stands in the text `t`, before its token `i`. -/
structure Stands (t : Text) (c : Cursor) (i : Nat) : Prop where
  offset : c.offset = 0
  text : c.text = t
  whole : Whole c.passed.reverse
  count : (tokens c.passed.reverse).length = i

namespace Stands
variable {t : Text} {c d : Cursor} {i : Nat}

theorem start (t : Text) : Stands t (Cursor.start t) 0 := ⟨rfl, rfl, whole_nil, rfl⟩

theorem tokens_eq (h : Stands t c i) : tokens t = tokens c.passed.reverse ++ tokens c.ahead := by
  rw [← h.text, Cursor.text, tokens_append h.whole]

theorem getElem?_add (h : Stands t c i) (n : Nat) : (tokens t)[i + n]? = (tokens c.ahead)[n]? := by
  rw [h.tokens_eq, List.getElem?_append_right (by rw [h.count]; omega), h.count, Nat.add_sub_cancel_left]

theorem getElem? (h : Stands t c i) : (tokens t)[i]? = (tokens c.ahead).head? := by
  rw [← Nat.add_zero i, h.getElem?_add, List.head?_eq_getElem?]

theorem behind {w : Text} {k : Token} (h : Stands t c i) (hd : d.offset = 0) (hs : Cursor.Spans c w d) (hw : Whole w)
    (hk : tokens w = [k]) : Stands t d (i + 1) := by
  have hpassed : d.passed.reverse = c.passed.reverse ++ w := by rw [hs.1, List.reverse_append, List.reverse_reverse]
  refine ⟨hd, hs.text.trans h.text, hpassed ▸ h.whole.append hw, ?_⟩
  rw [hpassed, tokens_append h.whole, List.length_append, h.count, hk]
  rfl

/-- A search that passes a tag gets to the place behind it, unless the tag takes the rest of the text. -/
theorem tag {g : Tag} (h : Stands t c i) (htag : tag? c = some (g, d)) :
    ∃ k, (tokens t)[i]? = some k ∧ k.isTag = true ∧ ((tokens t)[i + 1]? = none ∨
      Stands t d (i + 1) ∧ (g = .start ∧ k.rise = 1 ∨ g = .stop ∧ k.rise = -1)) := by
  obtain ⟨hd, w, hw, ⟨hs, hnil⟩ | ⟨hs, hg⟩⟩ := tag?_some h.offset htag
  · have hahead : tokens c.ahead = [.loose w] := by
      rw [hs.2, hnil, List.append_nil]
      simpa [tokens, tokensFrom] using tokensFrom_some_loose hw []
    refine ⟨.loose w, by rw [h.getElem?, hahead]; rfl, rfl, Or.inl ?_⟩
    rw [h.getElem?_add, hahead]
    rfl
  · have hahead : tokens c.ahead = Token.ofTag w :: tokens d.ahead := by
      rw [hs.2, tokens_append (whole_tag hw), tokens_tag_nil hw, List.singleton_append]
    refine ⟨Token.ofTag w, by rw [h.getElem?, hahead]; rfl, ?_, Or.inr ⟨h.behind hd hs (whole_tag hw) (tokens_tag_nil hw), ?_⟩⟩
    · unfold Token.ofTag
      split <;> rfl
    · rw [hg]
      cases w with
      | nil => exact Or.inl ⟨rfl, rfl⟩
      | cons a w =>
        by_cases ha : a = '/'
        · subst ha
          exact Or.inr ⟨rfl, rfl⟩
        · refine Or.inl ⟨by simp [ha], ?_⟩
          have hof : Token.ofTag (a :: w) = .start (a :: w) := by simp [Token.ofTag, ha]
          rw [hof]
          rfl

/-- A search that passes a tag before some character of the text gets to the place behind the tag. -/
theorem tag_before {g : Tag} {a : Char} {j : Nat} (h : Stands t c i) (htag : tag? c = some (g, d)) (hij : i ≤ j)
    (hj : (tokens t)[j]? = some (.char a)) : i < j ∧ Stands t d (i + 1) ∧
      (g = .start ∧ level (tokens t) (i + 1) = level (tokens t) i + 1 ∨
        g = .stop ∧ level (tokens t) (i + 1) = level (tokens t) i - 1) := by
  obtain ⟨k, hk, hktag, hbehind⟩ := h.tag htag
  have hne : i ≠ j := fun e => by
    rw [e, hj] at hk
    cases hk
    cases hktag
  have hlevel := level_succ (tokens t) i
  rw [hk, Option.map_some, Option.getD_some] at hlevel
  refine ⟨by omega, ?_⟩
  rcases hbehind with hnone | ⟨hd, ⟨hg, hrise⟩ | ⟨hg, hrise⟩⟩
  · have := List.getElem?_eq_none_iff.mp hnone
    have := (List.getElem?_eq_some_iff.mp hj).1
    omega
  · exact ⟨hd, Or.inl ⟨hg, by omega⟩⟩
  · exact ⟨hd, Or.inr ⟨hg, by omega⟩⟩

theorem char (h : Stands t c i) (htag : tag? c = none) (hd : Emphasis.pass c = some d) :
    Stands t d (i + 1) ∧ level (tokens t) (i + 1) = level (tokens t) i := by
  obtain ⟨hoff, a, ha, hs⟩ := Emphasis.pass_some h.offset htag hd
  have hw : '<' ∉ [a] := by simp [ha.symm]
  have hfirst : (tokens t)[i]? = some (.char a) := by
    rw [h.getElem?, hs.2, List.singleton_append, tokens_cons ha]
    rfl
  refine ⟨h.behind hoff hs (whole_chars hw) (tokens_chars hw), ?_⟩
  rw [level_succ, hfirst, Option.map_some, Option.getD_some, Token.rise, Int.add_zero]

theorem not_ended {u : Token} {j : Nat} (h : Stands t c i) (hij : i ≤ j) (hj : (tokens t)[j]? = some u) :
    Emphasis.pass c ≠ none := by
  intro hd
  have hnil : c.ahead = [] := by
    have hoff := h.offset
    obtain ⟨passed, ahead, offset⟩ := c
    cases ahead with
    | nil => rfl
    | cons a rest =>
      simp only at hoff
      subst hoff
      simp [Emphasis.pass, Cursor.next?] at hd
  have hnone : (tokens t)[i]? = none := by
    rw [h.getElem?, hnil]
    rfl
  have := List.getElem?_eq_none_iff.mp hnone
  have := (List.getElem?_eq_some_iff.mp hj).1
  omega

theorem isAt_iff {a : Char} (h : Stands t c i) (ha : a ≠ '<') : c.isAt a = true ↔ (tokens t)[i]? = some (.char a) := by
  rw [h.getElem?]
  constructor
  · intro hat
    obtain ⟨-, rest, hahead⟩ := Cursor.isAt_iff.mp hat
    rw [hahead, tokens_cons ha]
    rfl
  · intro hfirst
    have hhead := head?_tokens c.ahead
    rw [hfirst] at hhead
    obtain ⟨rest, hahead⟩ := List.head?_eq_some_iff.mp hhead
    exact Cursor.isAt_iff.mpr ⟨h.offset, rest, hahead⟩

/-! ### The neighbours of a delimiter -/

theorem charAfter_one {k : Emphasis} (h : Stands t c i) (hat : c.isAt k.delimiter = true) :
    c.charAfter 1 = (tokens t)[i + 1]?.map Token.first := by
  obtain ⟨-, rest, hahead⟩ := Cursor.isAt_iff.mp hat
  have htokens : tokens c.ahead = .char k.delimiter :: tokens rest := by
    rw [hahead, tokens_cons (by cases k <;> decide)]
  rw [h.getElem?_add, htokens, List.getElem?_cons_succ, ← List.head?_eq_getElem?, ← head?_tokens, Cursor.charAfter,
    Cursor.skip_one hat k.utf8Size_delimiter, hahead]
  rfl

theorem prev?_eq_some {a : Char} (h : Stands t c i) :
    c.prev? = some a ↔ ∃ m u, m + 1 = i ∧ (tokens t)[m]? = some u ∧ u.last = a := by
  have hprev : c.prev? = (tokens c.passed.reverse).getLast?.map Token.last := by
    rw [← getLast?_tokens, List.getLast?_reverse, Cursor.prev?, if_pos h.offset]
  have hcount := h.count
  rw [hprev, h.tokens_eq]
  rcases List.eq_nil_or_concat (tokens c.passed.reverse) with hnil | ⟨us, u, hus⟩
  · rw [hnil] at hcount ⊢
    rw [List.length_nil] at hcount
    refine ⟨fun hsome => by simp at hsome, ?_⟩
    rintro ⟨m, -, hm, -⟩
    omega
  · rw [List.concat_eq_append] at hus
    rw [hus] at hcount ⊢
    simp only [List.length_append, List.length_singleton] at hcount
    have hlast : (us ++ [u] ++ tokens c.ahead)[us.length]? = some u := by simp
    constructor
    · intro hsome
      refine ⟨us.length, u, hcount, hlast, by simpa using hsome⟩
    · rintro ⟨m, v, hm, hv, rfl⟩
      obtain rfl : m = us.length := by omega
      rw [hlast] at hv
      cases hv
      simp

end Stands

namespace Emphasis

/-! ### Delimiters among tokens -/

/-- The token `i` is a delimiter at which a span can open. -/
structure OpensAt (k : Emphasis) (ts : List Token) (i : Nat) : Prop where
  delimiter : ts[i]? = some (.char k.delimiter)
  behind : ∃ u, ts[i + 1]? = some u ∧ k.isContent u.first = true
  before : ∀ m u, m + 1 = i → ts[m]? = some u → Text.isAlphanumeric u.last = false

/-- The token `i` is a delimiter at which a span can close. -/
structure ClosesAt (k : Emphasis) (ts : List Token) (i : Nat) : Prop where
  delimiter : ts[i]? = some (.char k.delimiter)
  before : ∃ m u, m + 1 = i ∧ ts[m]? = some u ∧ k.isContent u.last = true
  behind : ∀ u, ts[i + 1]? = some u → Text.isAlphanumeric u.first = false

/-- The tokens `i` and `j` are delimiters that can make a pair. -/
structure Joins (k : Emphasis) (ts : List Token) (i j : Nat) : Prop where
  lt : i < j
  opens : OpensAt k ts i
  closes : ClosesAt k ts j
  balanced : Balanced ts (i + 1) j

theorem delimiter_ne_lt (k : Emphasis) : k.delimiter ≠ '<' := by cases k <;> decide

variable {k : Emphasis} {t : Text} {c : Cursor} {i : Nat}

theorem opensAt_iff (h : Stands t c i) : OpensAt k (tokens t) i ↔ c.isAt k.delimiter = true ∧ k.opens c = true := by
  rw [h.isAt_iff k.delimiter_ne_lt]
  constructor
  · rintro ⟨hdelimiter, ⟨u, hu, hcontent⟩, hbefore⟩
    have hat := (h.isAt_iff k.delimiter_ne_lt).mpr hdelimiter
    refine ⟨hdelimiter, ?_⟩
    rw [opens, h.charAfter_one hat, hu, Bool.and_eq_true]
    refine ⟨hcontent, ?_⟩
    cases hprev : c.prev? with
    | none => rfl
    | some a =>
      obtain ⟨m, u, hm, hu, rfl⟩ := h.prev?_eq_some.mp hprev
      simp [hbefore m u hm hu]
  · rintro ⟨hdelimiter, hopens⟩
    have hat := (h.isAt_iff k.delimiter_ne_lt).mpr hdelimiter
    rw [opens, h.charAfter_one hat, Bool.and_eq_true, Option.any_eq_true] at hopens
    obtain ⟨⟨a, ha, hcontent⟩, hprev⟩ := hopens
    obtain ⟨u, hu, rfl⟩ := Option.map_eq_some_iff.mp ha
    refine ⟨hdelimiter, ⟨u, hu, hcontent⟩, fun m v hm hv => ?_⟩
    rw [h.prev?_eq_some.mpr ⟨m, v, hm, hv, rfl⟩] at hprev
    simpa using hprev

theorem closesAt_iff (h : Stands t c i) : ClosesAt k (tokens t) i ↔ c.isAt k.delimiter = true ∧ k.closes c = true := by
  rw [h.isAt_iff k.delimiter_ne_lt]
  constructor
  · rintro ⟨hdelimiter, ⟨m, u, hm, hu, hcontent⟩, hbehind⟩
    have hat := (h.isAt_iff k.delimiter_ne_lt).mpr hdelimiter
    refine ⟨hdelimiter, ?_⟩
    rw [closes, h.charAfter_one hat, h.prev?_eq_some.mpr ⟨m, u, hm, hu, rfl⟩, Bool.and_eq_true]
    refine ⟨hcontent, ?_⟩
    cases hnext : (tokens t)[i + 1]? with
    | none => rfl
    | some v => simp [hbehind v hnext]
  · rintro ⟨hdelimiter, hcloses⟩
    have hat := (h.isAt_iff k.delimiter_ne_lt).mpr hdelimiter
    rw [closes, h.charAfter_one hat, Bool.and_eq_true, Option.any_eq_true] at hcloses
    obtain ⟨⟨a, ha, hcontent⟩, hnext⟩ := hcloses
    obtain ⟨m, u, hm, hu, rfl⟩ := h.prev?_eq_some.mp ha
    refine ⟨hdelimiter, ⟨m, u, hm, hu, hcontent⟩, fun v hv => ?_⟩
    rw [hv] at hnext
    simpa using hnext

/-! ### What the search finds -/

/-- The number of a place among those between the tokens of its text. -/
def number (c : Cursor) : Nat := (tokens c.passed.reverse).length

/-- The tokens of a text that is cut by a pair, and where in them the pair stands. -/
theorem tokens_of_cuts {p : Pair} (h : pair? k t = some p) {before inside after : Text}
    (hcut : p.Cuts k before inside after) (ht : t = before ++ k.delimiter :: inside ++ k.delimiter :: after) :
    tokens t = tokens before ++ .char k.delimiter :: (tokens inside ++ .char k.delimiter :: tokens after) ∧
    number p.opening = (tokens before).length ∧
    number p.closing = (tokens before).length + 1 + (tokens inside).length := by
  obtain ⟨hbefore, hinside, -⟩ := whole_of_cuts h hcut
  have hpassed : p.closing.passed.reverse = before ++ k.delimiter :: inside := by rw [hcut.closing]; simp
  refine ⟨?_, by rw [number, hcut.opening, List.reverse_reverse], ?_⟩
  · rw [ht, List.append_assoc, tokens_append hbefore, List.cons_append, tokens_cons k.delimiter_ne_lt,
      tokens_append hinside, tokens_cons k.delimiter_ne_lt]
  · rw [number, hpassed, tokens_append hbefore, tokens_cons k.delimiter_ne_lt, List.length_append, List.length_cons]
    omega

/-- The search stands between tokens at both delimiters of a pair. -/
theorem stands_of_cuts {p : Pair} (h : pair? k t = some p) {before inside after : Text}
    (hcut : p.Cuts k before inside after) (ht : t = before ++ k.delimiter :: inside ++ k.delimiter :: after) :
    Stands t p.opening (number p.opening) ∧ Stands t p.closing (number p.closing) := by
  obtain ⟨hbefore, hinside, -⟩ := whole_of_cuts h hcut
  have hpassed : p.closing.passed.reverse = before ++ ([k.delimiter] ++ inside) := by rw [hcut.closing]; simp
  have hdelimiter : Whole [k.delimiter] := whole_chars (by simp [k.delimiter_ne_lt.symm])
  constructor
  · refine ⟨by rw [hcut.opening], ?_, by rwa [hcut.opening, List.reverse_reverse], rfl⟩
    rw [hcut.opening, ht]
    simp [Cursor.text]
  · refine ⟨by rw [hcut.closing], ?_, by rw [hpassed]; exact hbefore.append (hdelimiter.append hinside), rfl⟩
    rw [hcut.closing, ht]
    simp [Cursor.text]

theorem joins_of_pair? {p : Pair} (h : pair? k t = some p) : Joins k (tokens t) (number p.opening) (number p.closing) := by
  obtain ⟨before, inside, after, hcut, ht⟩ := cuts_of_pair? h
  obtain ⟨-, -, hdepth⟩ := whole_of_cuts h hcut
  obtain ⟨htokens, hopening, hclosing⟩ := tokens_of_cuts h hcut ht
  obtain ⟨hstands, hstands'⟩ := stands_of_cuts h hcut ht
  obtain ⟨-, hat, hopens, hcloser⟩ := pairAt?_some (pairFrom_some h).2
  obtain ⟨-, hat', hcloses⟩ := closerFrom_some hcloser
  have hbalanced := balanced_of_depthAfter hdepth (tokens before ++ [.char k.delimiter]) (.char k.delimiter :: tokens after)
  rw [List.length_append, List.length_singleton, List.append_assoc, List.singleton_append, ← htokens, ← hclosing,
    ← hopening] at hbalanced
  exact ⟨by omega, (opensAt_iff hstands).mpr ⟨hat, hopens⟩, (closesAt_iff hstands').mpr ⟨hat', hcloses⟩, hbalanced⟩

/-! ### The search finds -/

/-- What holds in every turn of the search for a closing delimiter behind the token `i`, as long as it has not
    passed the token `j`. -/
def Approaches (t : Text) (i j : Nat) (s : Search) : Prop :=
  ∃ m, i + 1 ≤ m ∧ m ≤ j ∧ Stands t s.place m ∧ (s.depth : Int) = level (tokens t) m - level (tokens t) (i + 1)

variable {j : Nat}

theorem approaches_next {s u : Search} (hj : Joins k (tokens t) i j) (hs : Approaches t i j s)
    (hu : closerTurn k s = .next u) : Approaches t i j u := by
  obtain ⟨m, him, hmj, hstands, hdepth⟩ := hs
  unfold closerTurn at hu
  split at hu
  · rename_i d htag
    cases hu
    obtain ⟨hlt, hd, ⟨-, hlevel⟩ | ⟨hg, -⟩⟩ := hstands.tag_before htag hmj hj.closes.delimiter
    · exact ⟨m + 1, by omega, hlt, hd, by simp only; omega⟩
    · cases hg
  · cases hu
  · rename_i d n htag hn
    cases hu
    obtain ⟨hlt, hd, ⟨hg, -⟩ | ⟨-, hlevel⟩⟩ := hstands.tag_before htag hmj hj.closes.delimiter
    · cases hg
    · exact ⟨m + 1, by omega, hlt, hd, by simp only; omega⟩
  · rename_i htag
    split at hu
    · cases hu
    · rename_i hnot
      split at hu
      · rename_i d hd
        cases hu
        obtain ⟨hstands', hlevel⟩ := hstands.char htag hd
        have hne : m ≠ j := fun e => hnot (by
          obtain ⟨hat, hcloses⟩ := (closesAt_iff hstands).mp (e ▸ hj.closes)
          have hback := hj.balanced.back
          rw [← e] at hback
          have hzero : s.depth = 0 := by omega
          simp [hat, hcloses, hzero])
        exact ⟨m + 1, by omega, by omega, hstands', by simp only; omega⟩
      · cases hu

theorem approaches_done {s : Search} {a : Option Cursor} (hj : Joins k (tokens t) i j) (hs : Approaches t i j s)
    (ha : closerTurn k s = .done a) : a ≠ none := by
  obtain ⟨m, him, hmj, hstands, hdepth⟩ := hs
  unfold closerTurn at ha
  split at ha
  · cases ha
  · rename_i d htag hn
    obtain ⟨hlt, -, ⟨hg, -⟩ | ⟨-, hlevel⟩⟩ := hstands.tag_before htag hmj hj.closes.delimiter
    · cases hg
    · have := hj.balanced.above (m + 1) (by omega) hlt
      omega
  · cases ha
  · split at ha
    · cases ha
      simp
    · split at ha
      · cases ha
      · rename_i hd
        exact absurd hd (hstands.not_ended hmj hj.closes.delimiter)

theorem closer?_ne_none (hj : Joins k (tokens t) i j) (h : Stands t c i) : k.closer? c ≠ none := by
  obtain ⟨hat, -⟩ := (opensAt_iff h).mp hj.opens
  have hlt := hj.lt
  have hw : '<' ∉ [k.delimiter] := by simp [k.delimiter_ne_lt.symm]
  have hskip : (c.skip 1).offset = 0 := by rw [Cursor.skip_one hat k.utf8Size_delimiter]
  have hbehind : Stands t (c.skip 1) (i + 1) :=
    h.behind hskip (Cursor.spans_skip_one hat k.utf8Size_delimiter) (whole_chars hw) (tokens_chars hw)
  exact Turn.run_induct (Approaches t i j) (· ≠ none) (fun s u hs hu => approaches_next hj hs hu)
    (fun s a hs ha => approaches_done hj hs ha) ⟨i + 1, Nat.le_refl _, hlt, hbehind, by simp⟩

theorem pairAt?_ne_none (hj : Joins k (tokens t) i j) (h : Stands t c i) : k.pairAt? c ≠ none := by
  have hcond := (opensAt_iff h).mp hj.opens
  rw [pairAt?, if_pos (by simpa using hcond)]
  simpa using closer?_ne_none hj h

/-- If two delimiters of a text can make a pair, the search for a pair finds one. -/
theorem pair?_ne_none (hj : Joins k (tokens t) i j) : pair? k t ≠ none := by
  have hopening := hj.opens.delimiter
  -- The search gets to the place before the token `i`, or comes back with a pair before that.
  refine Turn.run_induct (fun c => ∃ m, m ≤ i ∧ Stands t c m) (· ≠ none) (fun c d hc hd => ?_) (fun c a hc ha => ?_)
    ⟨0, Nat.zero_le _, Stands.start t⟩
  · obtain ⟨m, hmi, hstands⟩ := hc
    unfold pairTurn at hd
    split at hd
    · rename_i g htag
      cases hd
      obtain ⟨hlt, hstands', -⟩ := hstands.tag_before htag hmi hopening
      exact ⟨m + 1, hlt, hstands'⟩
    · rename_i htag
      split at hd
      · cases hd
      · rename_i hnone hd'
        cases hd
        have hne : m ≠ i := fun e => pairAt?_ne_none hj (e ▸ hstands) hnone
        exact ⟨m + 1, by omega, (hstands.char htag hd').1⟩
      · cases hd
  · obtain ⟨m, hmi, hstands⟩ := hc
    unfold pairTurn at ha
    split at ha
    · cases ha
    · split at ha
      · cases ha
        simp
      · cases ha
      · rename_i hend
        exact absurd hend (hstands.not_ended hmi hopening)

theorem pair?_eq_none_iff : pair? k t = none ↔ ∀ i j, ¬Joins k (tokens t) i j := by
  refine ⟨fun hnone i j hj => pair?_ne_none hj hnone, fun hno => ?_⟩
  cases h : pair? k t with
  | none => rfl
  | some p => exact absurd (joins_of_pair? h) (hno _ _)

end Emphasis
end Inline
end WikiArticle
