import WikiArticle.Proofs.Inline.Search
import WikiArticle.Proofs.Inline.Span

/-! The delimiters that marking up takes, by their numbers among the tokens of the text. A tag stands where its
    delimiter stood, so the numbers mean the same in the text, in the marked-up text and in every text in
    between. Each pair that is taken leaves the earlier ones in place, and the marked-up text is the text
    with the delimiters of all pairs replaced. -/

namespace WikiArticle
namespace Inline
open Markup Mark

/-- A span that is marked up, by the numbers of its two delimiters among the tokens of the text. -/
structure Taken where
  kind : Emphasis
  opening : Nat
  closing : Nat
  deriving DecidableEq, Repr

namespace Taken

/-- The numbers of the two delimiters. -/
def places (p : Taken) : List Nat := [p.opening, p.closing]

theorem mem_places {p : Taken} {m : Nat} : m ∈ p.places ↔ m = p.opening ∨ m = p.closing := by simp [places]

theorem opening_mem_places (p : Taken) : p.opening ∈ p.places := List.mem_cons_self

theorem closing_mem_places (p : Taken) : p.closing ∈ p.places := List.mem_cons_of_mem _ (List.mem_singleton_self _)

/-- The tokens with the two delimiters replaced by the tags of the kind. -/
def put (p : Taken) (ts : List Token) : List Token := wrap (spanTag p.kind) p.opening p.closing ts

/-- The text between the two places of the tokens. -/
def inside (p : Taken) (ts : List Token) : Text := ((ts.take p.closing).drop (p.opening + 1)).flatMap Token.text

end Taken

namespace Emphasis

/-- The span that a pair of delimiters is replaced by. -/
def Pair.taken (p : Pair) (k : Emphasis) : Taken := ⟨k, number p.opening, number p.closing⟩

/-- The spans of one kind that are marked up, the first one taken first. -/
def takenOf (k : Emphasis) (t : Text) : List Taken :=
  match h : pair? k t with
  | some p =>
    have : (p.replace k).count k.delimiter + 2 = t.count k.delimiter := count_replace h
    p.taken k :: takenOf k (p.replace k)
  | none => []
termination_by t.count k.delimiter
decreasing_by omega

/-- The spans of some kinds that are marked up, one kind after the other. -/
def takenOfAll : List Emphasis → Text → List Taken
  | [], _ => []
  | k :: ks, t => takenOf k t ++ takenOfAll ks (markUpKind k t)

/-- The spans that are marked up. -/
def taken (t : Text) : List Taken := takenOfAll all t

/-! ### Runs -/

/-- Marking up the spans one after the other, each the first pair of its kind, leads from `t` to a text. -/
inductive Takes (t : Text) : List Taken → Text → Prop
  | refl : Takes t [] t
  | pair {ps : List Taken} {u : Text} {k : Emphasis} {p : Pair} :
      Takes t ps u → pair? k u = some p → Takes t (ps ++ [p.taken k]) (p.replace k)

theorem Takes.trans {t u v : Text} {ps qs : List Taken} (h : Takes t ps u) (h' : Takes u qs v) :
    Takes t (ps ++ qs) v := by
  induction h' with
  | refl => rwa [List.append_nil]
  | pair _ hp ih =>
    rw [← List.append_assoc]
    exact ih.pair hp

theorem takes_markUpKind (k : Emphasis) (t : Text) : Takes t (takenOf k t) (markUpKind k t) := by
  induction t using takenOf.induct k with
  | case1 t p hp _ ih =>
    rw [takenOf, markUpKind_of_some hp]
    split
    · rename_i q hq
      rw [hp] at hq
      cases hq
      exact (Takes.refl.pair hp).trans ih
    · rename_i hq
      rw [hp] at hq
      cases hq
  | case2 t hp =>
    rw [takenOf, markUpKind_of_none hp]
    split
    · rename_i q hq
      rw [hp] at hq
      cases hq
    · exact Takes.refl

theorem takes_markUp (t : Text) : Takes t (taken t) (markUp t) := by
  suffices hall : ∀ ks t, Takes t (takenOfAll ks t) (ks.foldl (fun t k => markUpKind k t) t) from hall all t
  intro ks
  induction ks with
  | nil => exact fun t => Takes.refl
  | cons k ks ih => exact fun t => (takes_markUpKind k t).trans (ih _)

/-! ### One span more -/

variable {k : Emphasis} {t : Text} {p : Pair}

theorem tokens_startTag (k : Emphasis) : Whole k.startTag ∧ tokens k.startTag = [.start (spanTag k)] :=
  ⟨whole_text (start k), tokens_start k⟩

theorem tokens_endTag (k : Emphasis) : Whole k.endTag ∧ tokens k.endTag = [.stop (elementName (spanTag k))] :=
  ⟨whole_text (stop k), tokens_stop k⟩

/-- The tokens before and after a pair is replaced. -/
theorem tokens_replace_cut (h : pair? k t = some p) : ∃ as bs cs,
    tokens t = as ++ .char k.delimiter :: (bs ++ .char k.delimiter :: cs) ∧
    tokens (p.replace k) = as ++ .start (spanTag k) :: (bs ++ .stop (elementName (spanTag k)) :: cs) ∧
    p.taken k = ⟨k, as.length, as.length + 1 + bs.length⟩ ∧ depthAfter bs 0 = some 0 := by
  obtain ⟨before, inside, after, hcut, ht⟩ := cuts_of_pair? h
  obtain ⟨hbefore, hinside, hdepth⟩ := whole_of_cuts h hcut
  obtain ⟨htokens, hopening, hclosing⟩ := tokens_of_cuts h hcut ht
  refine ⟨_, _, _, htokens, ?_, by rw [Pair.taken, hopening, hclosing], hdepth⟩
  have hreplace : p.replace k = before ++ (k.startTag ++ (inside ++ (k.endTag ++ after))) := by simpa using hcut.replace
  rw [hreplace, tokens_append hbefore, tokens_append (tokens_startTag k).1, tokens_append hinside,
    tokens_append (tokens_endTag k).1, (tokens_startTag k).2, (tokens_endTag k).2]
  rfl

theorem tokens_replace (h : pair? k t = some p) : tokens (p.replace k) = (p.taken k).put (tokens t) := by
  obtain ⟨as, bs, cs, htokens, hreplace, htaken, -⟩ := tokens_replace_cut h
  rw [htaken, Taken.put, htokens, wrap_append, hreplace]

theorem openAfter_replace (h : pair? k t = some p) {s r : List Text} (hs : openAfter (tokens t) s = some r) :
    openAfter (tokens (p.replace k)) s = some r := by
  obtain ⟨as, bs, cs, htokens, hreplace, -, hdepth⟩ := tokens_replace_cut h
  rw [htokens] at hs
  rw [hreplace]
  exact openAfter_wrap hdepth hs

theorem isContent_delimiter {k l : Emphasis} (h : l ≠ k) : k.isContent l.delimiter = true := by
  revert h
  cases k <;> cases l <;> decide

theorem not_isContent_delimiter (k : Emphasis) : k.isContent k.delimiter = false := by cases k <;> decide

theorem not_isAlphanumeric_delimiter (k : Emphasis) : Text.isAlphanumeric k.delimiter = false := by cases k <;> decide

theorem Joins.apart {ts : List Token} {i j : Nat} (h : Joins k ts i j) : i + 1 < j := by
  have hlt := h.lt
  obtain ⟨m, u, hm, hu, hcontent⟩ := h.closes.before
  have hne : m ≠ i := fun e => by
    rw [e, h.opens.delimiter] at hu
    cases hu
    rw [Token.last, k.not_isContent_delimiter] at hcontent
    cases hcontent
  omega

/-! ### What a run keeps -/

/-- What the token beside an opening delimiter is: content, or a delimiter of the kind that is taken as well. -/
structure Judged (ts : List Token) (ps : List Taken) (p : Taken) : Prop where
  behindOpening : ∃ u, ts[p.opening + 1]? = some u ∧
    (p.kind.isContent u.first = true ∨ ∃ q ∈ ps, q.kind = p.kind ∧ p.opening + 1 ∈ q.places)
  beforeOpening : ∀ m u, m + 1 = p.opening → ts[m]? = some u → Text.isAlphanumeric u.last = false
  beforeClosing : ∃ m u, m + 1 = p.closing ∧ ts[m]? = some u ∧
    (p.kind.isContent u.last = true ∨ ∃ q ∈ ps, q.kind = p.kind ∧ m ∈ q.places)
  behindClosing : ∀ u, ts[p.closing + 1]? = some u → Text.isAlphanumeric u.first = false

/-- What is known of the tokens `ts` of a text and the tokens `us` of what the spans `ps` make of it. -/
structure Replaced (ts : List Token) (ps : List Taken) (us : List Token) : Prop where
  length : us.length = ts.length
  distinct : (ps.flatMap Taken.places).Nodup
  apart : ∀ p ∈ ps, p.opening + 1 < p.closing
  source : ∀ p ∈ ps, ∀ m ∈ p.places, ts[m]? = some (.char p.kind.delimiter)
  opened : ∀ p ∈ ps, us[p.opening]? = some (.start (spanTag p.kind))
  closed : ∀ p ∈ ps, us[p.closing]? = some (.stop (elementName (spanTag p.kind)))
  kept : ∀ m, m ∉ ps.flatMap Taken.places → us[m]? = ts[m]?
  balanced : ∀ p ∈ ps, Balanced us (p.opening + 1) p.closing
  judged : ∀ p ∈ ps, Judged ts ps p

namespace Replaced
variable {ts us : List Token} {ps : List Taken} {i j : Nat}

theorem refl (ts : List Token) : Replaced ts [] ts := by
  constructor <;> simp

/-- The token at a place is a tag by now. -/
theorem tag_of_mem {m : Nat} (h : Replaced ts ps us) (hm : m ∈ ps.flatMap Taken.places) :
    ∃ v, us[m]? = some v ∧ v.isTag = true ∧ v.first = '<' ∧ v.last = '>' := by
  obtain ⟨p, hp, hm⟩ := List.mem_flatMap.mp hm
  rcases Taken.mem_places.mp hm with rfl | rfl
  · exact ⟨_, h.opened p hp, rfl, rfl, rfl⟩
  · exact ⟨_, h.closed p hp, rfl, rfl, rfl⟩

theorem not_char {m : Nat} {c : Char} (h : Replaced ts ps us) (hm : m ∈ ps.flatMap Taken.places) :
    us[m]? ≠ some (.char c) := by
  intro hchar
  obtain ⟨v, hv, hvtag, -⟩ := h.tag_of_mem hm
  rw [hchar] at hv
  cases hv
  cases hvtag

/-- A token of the text is kept, or it is a delimiter that is taken. -/
theorem source_cases (h : Replaced ts ps us) (m : Nat) :
    us[m]? = ts[m]? ∨ ∃ p ∈ ps, m ∈ p.places ∧ ts[m]? = some (.char p.kind.delimiter) := by
  by_cases hm : m ∈ ps.flatMap Taken.places
  · obtain ⟨p, hp, hm⟩ := List.mem_flatMap.mp hm
    exact Or.inr ⟨p, hp, hm, h.source p hp m hm⟩
  · exact Or.inl (h.kept m hm)

theorem judged_of_joins {q : Taken} (h : Replaced ts ps us) (hj : Joins q.kind us q.opening q.closing) :
    Judged ts ps q := by
  have hdelimiter {m : Nat} {p : Taken} (hp : p ∈ ps) (hm : m ∈ p.places) :
      q.kind.isContent p.kind.delimiter = true ∨ ∃ p ∈ ps, p.kind = q.kind ∧ m ∈ p.places := by
    by_cases hk : p.kind = q.kind
    · exact Or.inr ⟨p, hp, hk, hm⟩
    · exact Or.inl (isContent_delimiter hk)
  constructor
  · obtain ⟨u, hu, hcontent⟩ := hj.opens.behind
    rcases h.source_cases (q.opening + 1) with hkept | ⟨p, hp, hm, hsource⟩
    · exact ⟨u, hkept ▸ hu, Or.inl hcontent⟩
    · exact ⟨_, hsource, hdelimiter hp hm⟩
  · intro m u hm hu
    rcases h.source_cases m with hkept | ⟨p, -, -, hsource⟩
    · exact hj.opens.before m u hm (hkept.trans hu)
    · rw [hu] at hsource
      cases hsource
      exact p.kind.not_isAlphanumeric_delimiter
  · obtain ⟨m, u, hm, hu, hcontent⟩ := hj.closes.before
    rcases h.source_cases m with hkept | ⟨p, hp, hmp, hsource⟩
    · exact ⟨m, u, hm, hkept ▸ hu, Or.inl hcontent⟩
    · exact ⟨m, _, hm, hsource, hdelimiter hp hmp⟩
  · intro u hu
    rcases h.source_cases (q.closing + 1) with hkept | ⟨p, -, -, hsource⟩
    · exact hj.closes.behind u (hkept.trans hu)
    · rw [hu] at hsource
      cases hsource
      exact p.kind.not_isAlphanumeric_delimiter

/-- One more pair keeps all that is known. -/
theorem span {q : Taken} (h : Replaced ts ps us) (hj : Joins q.kind us q.opening q.closing) :
    Replaced ts (ps ++ [q]) (q.put us) := by
  have hopening := hj.opens.delimiter
  have hclosing := hj.closes.delimiter
  -- The two delimiters are still there, so no span has taken them.
  have hfresh {m : Nat} (hm : m ∈ q.places) : m ∉ ps.flatMap Taken.places := by
    rcases Taken.mem_places.mp hm with rfl | rfl
    · exact fun hm => h.not_char hm hopening
    · exact fun hm => h.not_char hm hclosing
  have hne {p : Taken} (hp : p ∈ ps) {m : Nat} (hm : m ∈ p.places) : m ≠ q.opening ∧ m ≠ q.closing := by
    have hm' : m ∈ ps.flatMap Taken.places := List.mem_flatMap.mpr ⟨p, hp, hm⟩
    exact ⟨fun e => hfresh q.opening_mem_places (e ▸ hm'), fun e => hfresh q.closing_mem_places (e ▸ hm')⟩
  have hplaces : (ps ++ [q]).flatMap Taken.places = ps.flatMap Taken.places ++ q.places := by
    rw [List.flatMap_append, List.flatMap_singleton]
  have hall {P : Taken → Prop} (hps : ∀ p ∈ ps, P p) (hq : P q) : ∀ p ∈ ps ++ [q], P p := by
    intro p hp
    rcases List.mem_append.mp hp with hp | hp
    · exact hps p hp
    · rw [List.mem_singleton.mp hp]
      exact hq
  constructor
  case length => rw [Taken.put, wrap, List.length_set, List.length_set, h.length]
  case distinct =>
    rw [hplaces, List.nodup_append]
    refine ⟨h.distinct, by simpa [Taken.places] using Nat.ne_of_lt hj.lt, fun m hm n hn e => ?_⟩
    exact hfresh hn (e ▸ hm)
  case apart => exact hall h.apart hj.apart
  case source =>
    refine hall h.source fun m hm => ?_
    rw [← h.kept m (hfresh hm)]
    rcases Taken.mem_places.mp hm with rfl | rfl
    · exact hopening
    · exact hclosing
  case opened =>
    refine hall (fun p hp => ?_) (getElem?_wrap_opening hj.lt hopening)
    have hm := hne hp p.opening_mem_places
    rw [Taken.put, getElem?_wrap_of_ne hm.1 hm.2, h.opened p hp]
  case closed =>
    refine hall (fun p hp => ?_) (getElem?_wrap_closing hclosing)
    have hm := hne hp p.closing_mem_places
    rw [Taken.put, getElem?_wrap_of_ne hm.1 hm.2, h.closed p hp]
  case kept =>
    intro m hm
    rw [hplaces, List.mem_append, Taken.mem_places, not_or, not_or] at hm
    rw [Taken.put, getElem?_wrap_of_ne hm.2.1 hm.2.2, h.kept m hm.1]
  case balanced =>
    refine hall (fun p hp => ?_) (hj.balanced.wrapped hj.lt hopening hclosing)
    have hlt := h.apart p hp
    exact hj.balanced.wrap hj.lt hopening hclosing (h.balanced p hp) (by omega) (h.opened p hp) (h.closed p hp)
  case judged =>
    have hmono {p : Taken} (hp : Judged ts ps p) : Judged ts (ps ++ [q]) p := by
      obtain ⟨⟨u, hu, hbehind⟩, hbefore, ⟨m, v, hm, hv, hbefore'⟩, hbehind'⟩ := hp
      refine ⟨⟨u, hu, hbehind.imp_right ?_⟩, hbefore, ⟨m, v, hm, hv, hbefore'.imp_right ?_⟩, hbehind'⟩
      · rintro ⟨r, hr, hk, hm⟩
        exact ⟨r, List.mem_append_left _ hr, hk, hm⟩
      · rintro ⟨r, hr, hk, hm⟩
        exact ⟨r, List.mem_append_left _ hr, hk, hm⟩
    exact hall (fun p hp => hmono (h.judged p hp)) (hmono (h.judged_of_joins hj))

end Replaced

theorem Takes.replaced {t u : Text} {ps : List Taken} (h : Takes t ps u) : Replaced (tokens t) ps (tokens u) := by
  induction h with
  | refl => exact Replaced.refl _
  | pair _ hp ih =>
    rw [tokens_replace hp]
    exact ih.span (joins_of_pair? hp)

theorem Takes.openAfter {t u : Text} {ps : List Taken} (h : Takes t ps u) {s r : List Text}
    (hs : openAfter (tokens t) s = some r) : openAfter (tokens u) s = some r := by
  induction h with
  | refl => exact hs
  | pair _ hp ih => exact openAfter_replace hp ih

/-! ### What stands inside -/

namespace Replaced
variable {ts us : List Token} {ps : List Taken} {p : Taken}

theorem not_isBlank_of_isContent {c : Char} (h : k.isContent c = true) : Text.isBlank c = false := by
  simp only [isContent, Bool.and_eq_true, Bool.not_eq_true'] at h
  exact h.1

/-- What was content at the edge of a span is no white space after the run either: it is kept, or a tag is there. -/
theorem not_isBlank_edge {m : Nat} {u : Token} {edge : Token → Char} (h : Replaced ts ps us)
    (hedge : ∀ v : Token, v.first = '<' → v.last = '>' → Text.isBlank (edge v) = false) (hu : ts[m]? = some u)
    (hjudged : k.isContent (edge u) = true ∨ ∃ q ∈ ps, q.kind = k ∧ m ∈ q.places) :
    ∃ v, us[m]? = some v ∧ Text.isBlank (edge v) = false := by
  by_cases hm : m ∈ ps.flatMap Taken.places
  · obtain ⟨v, hv, -, hfirst, hlast⟩ := h.tag_of_mem hm
    exact ⟨v, hv, hedge v hfirst hlast⟩
  · refine ⟨u, (h.kept m hm).trans hu, ?_⟩
    rcases hjudged with hcontent | ⟨q, hq, -, hplace⟩
    · exact not_isBlank_of_isContent hcontent
    · exact absurd (List.mem_flatMap.mpr ⟨q, hq, hplace⟩) hm

theorem not_isBlank_first (h : Replaced ts ps us) (hp : p ∈ ps) :
    ∃ v, us[p.opening + 1]? = some v ∧ Text.isBlank v.first = false := by
  obtain ⟨u, hu, hjudged⟩ := (h.judged p hp).behindOpening
  exact h.not_isBlank_edge (fun v hfirst _ => by rw [hfirst]; decide) hu hjudged

theorem not_isBlank_last (h : Replaced ts ps us) (hp : p ∈ ps) :
    ∃ m v, m + 1 = p.closing ∧ us[m]? = some v ∧ Text.isBlank v.last = false := by
  obtain ⟨m, u, hclosing, hu, hjudged⟩ := (h.judged p hp).beforeClosing
  obtain ⟨v, hv, hlast⟩ := h.not_isBlank_edge (fun v _ hlast => by rw [hlast]; decide) hu hjudged
  exact ⟨m, v, hclosing, hv, hlast⟩

theorem inside_trimmed (h : Replaced ts ps us) (hp : p ∈ ps) :
    p.inside us ≠ [] ∧ Text.trim (p.inside us) = p.inside us := by
  have hapart := h.apart p hp
  obtain ⟨v, hv, hfirst⟩ := h.not_isBlank_first hp
  obtain ⟨m, w, hclosing, hw, hlast⟩ := h.not_isBlank_last hp
  have hlength := (List.getElem?_eq_some_iff.mp (h.closed p hp)).1
  have hhead : (p.inside us).head? = some v.first := by
    rw [Taken.inside, head?_flatMap_text, List.head?_drop, List.getElem?_take_of_lt hapart, hv, Option.map_some]
  have hend : (p.inside us).getLast? = some w.last := by
    have hm : p.closing - 1 = m := by omega
    rw [Taken.inside, getLast?_flatMap_text, List.getLast?_drop, if_neg (by rw [List.length_take]; omega),
      List.getLast?_take, if_neg (by omega), hm, hw, Option.some_or, Option.map_some]
  refine ⟨fun hnil => ?_, Text.trim_of_ends hhead hend hfirst hlast⟩
  rw [hnil] at hhead
  cases hhead

end Replaced

theorem not_isLoose_of_openAfter {ts : List Token} {s r : List Text} (h : openAfter ts s = some r) :
    ∀ k ∈ ts, k.isLoose = false := by
  induction ts generalizing s with
  | nil => simp
  | cons k ts ih =>
    obtain ⟨u, hu, h⟩ := Option.bind_eq_some_iff.mp h
    intro m hm
    rcases List.mem_cons.mp hm with rfl | hm
    · cases m with
      | loose rest => cases hu
      | _ => rfl
    · exact ih h m hm

theorem text_of_opened {us : List Token} {k : Emphasis} {m : Nat} (h : us[m]? = some (.start (spanTag k))) :
    us[m]?.map Token.text = some k.startTag := by
  rw [h]
  cases k <;> rfl

theorem text_of_closed {us : List Token} {k : Emphasis} {m : Nat}
    (h : us[m]? = some (.stop (elementName (spanTag k)))) : us[m]?.map Token.text = some k.endTag := by
  rw [h]
  cases k <;> decide

/-- Marking up replaces pairs of delimiters by the tags of their kind and keeps every other token of the text in
    its place: the characters and the tags, with what the tags hold. No token belongs to two pairs. Between
    the tags of a span the elements are balanced, so well nested text stays well nested, and what they
    enclose is not empty and neither begins nor ends with white space. -/
theorem tokens_markUp (t : Text) :
    let ts := tokens t
    let us := tokens (markUp t)
    let places := (taken t).flatMap Taken.places
    (ts.flatMap Token.text = t ∧ us.flatMap Token.text = markUp t) ∧
    us.length = ts.length ∧ (∀ m, m ∉ places → us[m]? = ts[m]?) ∧ places.Nodup ∧
    (∀ p ∈ taken t, p.opening < p.closing ∧
      ts[p.opening]? = some (.char p.kind.delimiter) ∧ ts[p.closing]? = some (.char p.kind.delimiter) ∧
      us[p.opening]?.map Token.text = some p.kind.startTag ∧ us[p.closing]?.map Token.text = some p.kind.endTag ∧
      Balanced us (p.opening + 1) p.closing ∧
      p.inside us ≠ [] ∧ Text.trim (p.inside us) = p.inside us) ∧
    (Nested t → Nested (markUp t)) := by
  intro ts us places
  have htakes := takes_markUp t
  have h : Replaced ts (taken t) us := htakes.replaced
  refine ⟨⟨Forest.text_tokens t, Forest.text_tokens (markUp t)⟩, h.length, h.kept, h.distinct, fun p hp => ?_, ?_⟩
  · have hapart := h.apart p hp
    have hopening := h.source p hp p.opening p.opening_mem_places
    have hclosing := h.source p hp p.closing p.closing_mem_places
    exact ⟨by omega, hopening, hclosing, text_of_opened (h.opened p hp), text_of_closed (h.closed p hp),
      h.balanced p hp, h.inside_trimmed hp⟩
  · rintro ⟨-, hopen⟩
    have hopen' := htakes.openAfter hopen
    exact ⟨not_isLoose_of_openAfter hopen', hopen'⟩

end Emphasis
end Inline
end WikiArticle
