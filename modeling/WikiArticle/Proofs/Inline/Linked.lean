import WikiArticle.Inline
import WikiArticle.Proofs.Inline.Span

/-! Links as a recursion on the text: the first opening bracket that is closed later on and the first closing
    bracket behind it make a span, and what follows is marked up in the same way. On escaped text, which
    has the brackets of its source and no others, this marks up the links of the source. -/

namespace WikiArticle
namespace Inline

/-! ### Between two brackets -/

/-- Whether a character belongs to the url when no such character has been left out before it. -/
def isUrlChar (c : Char) : Bool := c != ' ' && c != '"'

/-- The url of the link with `inside` between its brackets. -/
def linkUrl (inside : Text) : Text := inside.takeWhile isUrlChar

/-- The words of the link with `inside` between its brackets. -/
def linkText (inside : Text) : Text := Text.trim (inside.dropWhile isUrlChar)

/-- What stands before the first closing bracket. -/
def insideLink (t : Text) : Text := t.takeWhile (· != ']')

/-- What stands behind the first closing bracket. -/
def behindLink (t : Text) : Text := (t.dropWhile (· != ']')).tail

theorem insideLink_append {u : Text} (hu : ']' ∉ u) (v : Text) :
    insideLink (u ++ ']' :: v) = u ∧ behindLink (u ++ ']' :: v) = v := by
  obtain ⟨h₁, h₂⟩ := takeWhile_append_cons (Text.bne_of_notMem hu) (b := ']') (by decide) v
  simp only [insideLink, behindLink, h₁, h₂, List.tail_cons]
  exact ⟨trivial, trivial⟩

theorem split_at_close {t : Text} (h : ']' ∈ t) : t = insideLink t ++ ']' :: behindLink t ∧ ']' ∉ insideLink t := by
  obtain ⟨u, v, rfl, hu⟩ := List.eq_append_cons_of_mem h
  obtain ⟨h₁, h₂⟩ := insideLink_append hu v
  rw [h₁, h₂]
  exact ⟨rfl, hu⟩

theorem length_behindLink {t : Text} (h : ']' ∈ t) : (behindLink t).length < t.length := by
  conv => rhs; rw [(split_at_close h).1]
  simp only [List.length_append, List.length_cons]
  omega

/-! ### The recursion -/

/-- The element of a link. -/
def ulink (url text : Text) : Text := "<ulink url=\"".toList ++ url ++ "\">".toList ++ text ++ "</ulink>".toList

/-- The text with its links marked up. -/
def linked : Text → Text
  | [] => []
  | c :: t =>
    if h : c = '[' ∧ ']' ∈ t then
      have : (behindLink t).length < t.length := length_behindLink h.2
      ulink (linkUrl (insideLink t)) (linkText (insideLink t)) ++ linked (behindLink t)
    else c :: linked t
termination_by t => t.length

theorem linked_span {t : Text} (h : ']' ∈ t) :
    linked ('[' :: t) = ulink (linkUrl (insideLink t)) (linkText (insideLink t)) ++ linked (behindLink t) := by
  rw [linked, dif_pos ⟨rfl, h⟩]

theorem linked_char {c : Char} {t : Text} (h : ¬(c = '[' ∧ ']' ∈ t)) : linked (c :: t) = c :: linked t := by
  rw [linked, dif_neg h]

theorem endsUrl_leadByte (c : Char) : LinkSpan.endsUrl (Cursor.leadByte c) = false ↔ isUrlChar c = true ∧ c ≠ ']' := by
  simp only [LinkSpan.endsUrl, isUrlChar, Bool.or_eq_false_iff, beq_eq_false_iff_ne, Bool.and_eq_true, bne_iff_ne, ne_eq]
  rw [Cursor.leadByte_eq_iff (by decide), Cursor.leadByte_eq_iff (by decide), Cursor.leadByte_eq_iff (by decide)]

theorem endsText_leadByte (c : Char) : LinkSpan.endsText (Cursor.leadByte c) = true ↔ c = ']' := by
  rw [LinkSpan.endsText, beq_iff_eq]
  exact Cursor.leadByte_eq_iff (by decide)

theorem seek_endsText {u : Text} (hu : ']' ∉ u) (passed v : Text) :
    Cursor.seek LinkSpan.endsText passed (u ++ ']' :: v) = ⟨u.reverse ++ passed, ']' :: v, 0⟩ := by
  refine Cursor.seek_of_found (fun a ha => ?_) ((endsText_leadByte ']').mpr rfl) passed v
  rw [← Bool.not_eq_true, endsText_leadByte]
  rintro rfl
  exact hu ha

theorem seek_endsUrl {u : Text} (hu : ']' ∉ u) (passed v : Text) :
    Cursor.seek LinkSpan.endsUrl passed (u ++ ']' :: v) =
      ⟨(linkUrl u).reverse ++ passed, u.dropWhile isUrlChar ++ ']' :: v, 0⟩ := by
  have hfree : ∀ a ∈ linkUrl u, LinkSpan.endsUrl (Cursor.leadByte a) = false := fun a ha =>
    (endsUrl_leadByte a).mpr ⟨by simpa using List.all_eq_true.mp List.all_takeWhile a ha, fun e =>
      hu (e ▸ List.IsPrefix.mem ha (List.takeWhile_prefix _))⟩
  have hsplit : u = linkUrl u ++ u.dropWhile isUrlChar := List.takeWhile_append_dropWhile.symm
  conv => lhs; rw [hsplit, List.append_assoc]
  cases hd : u.dropWhile isUrlChar with
  | nil =>
    refine Cursor.seek_of_found hfree ?_ passed v
    rw [← Bool.not_eq_false, endsUrl_leadByte]
    simp
  | cons b bs =>
    refine Cursor.seek_of_found hfree ?_ passed _
    have hb : isUrlChar b = false := by
      have := List.head?_dropWhile_not isUrlChar u
      simpa [hd] using this
    rw [← Bool.not_eq_false, endsUrl_leadByte]
    simp [hb]

theorem at?_of_closed {u : Text} (hu : ']' ∉ u) (passed v : Text) :
    ∃ s, LinkSpan.at? ⟨passed, '[' :: (u ++ ']' :: v), 0⟩ = some s ∧ s.url = linkUrl u ∧ s.text = linkText u ∧
      s.closing = ⟨']' :: (u.reverse ++ '[' :: passed), v, 0⟩ := by
  have hat : Cursor.isAt ⟨passed, '[' :: (u ++ ']' :: v), 0⟩ '[' = true := by simp [Cursor.isAt, Cursor.char?]
  have hskip := Cursor.skip_one hat rfl
  have hclose : ∀ p, Cursor.skip 1 ⟨p, ']' :: v, 0⟩ = ⟨']' :: p, v, 0⟩ := fun p => by
    rw [Cursor.skip_one (a := ']') (by simp [Cursor.isAt, Cursor.char?]) rfl]
    rfl
  have hdrop : ']' ∉ u.dropWhile isUrlChar := fun h => hu ((List.dropWhile_suffix _).mem h)
  have hsplit : u = linkUrl u ++ u.dropWhile isUrlChar := List.takeWhile_append_dropWhile.symm
  simp only [LinkSpan.at?, hat, if_true, hskip, List.tail_cons, Cursor.skipUntil, seek_endsUrl hu, seek_endsText hdrop,
    hclose]
  rw [if_pos (by simp [Cursor.isAt, Cursor.char?])]
  refine ⟨_, rfl, ?_, ?_, ?_⟩
  · refine Cursor.Spans.upTo ⟨rfl, ?_⟩
    show u ++ ']' :: v = linkUrl u ++ (u.dropWhile isUrlChar ++ ']' :: v)
    rw [← List.append_assoc, ← hsplit]
  · exact congrArg Text.trim (Cursor.Spans.upTo ⟨rfl, rfl⟩)
  · rw [← List.append_assoc, ← List.reverse_append, ← hsplit]

theorem at?_of_not_closed {t : Text} (ht : ']' ∉ t) (passed : Text) : LinkSpan.at? ⟨passed, '[' :: t, 0⟩ = none := by
  have hat : Cursor.isAt ⟨passed, '[' :: t, 0⟩ '[' = true := by simp [Cursor.isAt, Cursor.char?]
  have hskip := Cursor.skip_one hat rfl
  simp only [LinkSpan.at?, hat, if_true, hskip, List.tail_cons]
  refine if_neg fun h => ?_
  obtain ⟨-, rest, hrest⟩ := Cursor.isAt_iff.mp h
  have hprec := (Cursor.precedes_skipUntil LinkSpan.endsUrl ⟨'[' :: passed, t, 0⟩).trans
    (Cursor.precedes_skipUntil LinkSpan.endsText _)
  obtain ⟨w, -, hw⟩ := hprec
  rw [hrest] at hw
  have hw : t = w ++ ']' :: rest := hw
  exact ht (by rw [hw]; simp)

theorem linksFrom_eq (passed t : Text) : linksFrom ⟨passed, t, 0⟩ = linked t := by
  -- A link is passed as a whole, so the induction is on the length and not on the characters.
  induction hn : t.length using Nat.strongRecOn generalizing passed t with
  | _ n ih =>
    subst hn
    cases t with
    | nil => rw [linksFrom_of_none rfl, linked]
    | cons c t =>
      by_cases hc : c = '[' ∧ ']' ∈ t
      · obtain ⟨rfl, hclose⟩ := hc
        obtain ⟨ht, hu⟩ := split_at_close hclose
        obtain ⟨s, hs, hurl, htext, hclosing⟩ := at?_of_closed hu passed (behindLink t)
        rw [← ht] at hs
        have hturn : linkTurn ⟨passed, '[' :: t, 0⟩ = some (s.ulink, s.closing) := by rw [linkTurn, hs]
        rw [linksFrom_of_some hturn, hclosing, linked_span hclose,
          ih _ (Nat.lt_succ_of_lt (length_behindLink hclose)) _ _ rfl]
        unfold LinkSpan.ulink
        rw [hurl, htext]
        rfl
      · have hat : LinkSpan.at? ⟨passed, c :: t, 0⟩ = none := by
          by_cases he : c = '['
          · subst he
            exact at?_of_not_closed (fun h => hc ⟨rfl, h⟩) passed
          · simp [LinkSpan.at?, Cursor.isAt, Cursor.char?, he]
        have hturn : linkTurn ⟨passed, c :: t, 0⟩ = some ([c], ⟨c :: passed, t, 0⟩) := by rw [linkTurn, hat]; rfl
        rw [linksFrom_of_some hturn, ih _ (Nat.lt_succ_self _) _ _ rfl, linked_char hc]
        rfl

theorem markUpLinks_eq (t : Text) : markUpLinks t = linked t := linksFrom_eq [] t

/-! ### Escaped text -/

open Mark

/-- The marks of a source with its links marked up. -/
def linkMarks : Text → List Mark
  | [] => []
  | c :: t =>
    if h : c = '[' ∧ ']' ∈ t then
      have : (behindLink t).length < t.length := length_behindLink h.2
      linkStart (linkUrl (insideLink t)) ::
        ((linkText (insideLink t)).map char ++ linkStop :: linkMarks (behindLink t))
    else char c :: linkMarks t
termination_by t => t.length

theorem linkMarks_span {t : Text} (h : ']' ∈ t) : linkMarks ('[' :: t) = linkStart (linkUrl (insideLink t)) ::
    ((linkText (insideLink t)).map char ++ linkStop :: linkMarks (behindLink t)) := by
  rw [linkMarks, dif_pos ⟨rfl, h⟩]

theorem linkMarks_char {c : Char} {t : Text} (h : ¬(c = '[' ∧ ']' ∈ t)) :
    linkMarks (c :: t) = char c :: linkMarks t := by
  rw [linkMarks, dif_neg h]

theorem linkUrl_escape (t : Text) : linkUrl (escape t) = escape (linkUrl t) :=
  takeWhile_escape (Text.forall_of_all (by decide)) (Text.forall_of_all (by decide)) t

theorem linkText_escape (t : Text) : linkText (escape t) = escape (linkText t) := by
  rw [linkText, dropWhile_escape (Text.forall_of_all (by decide)) (Text.forall_of_all (by decide)), trim_escape, linkText]

theorem mem_bracket_escape {a : Char} (ha : a = '[' ∨ a = ']') {t : Text} : a ∈ escape t ↔ a ∈ t := by
  rcases ha with rfl | rfl <;> exact mem_escape_iff (by decide) (by decide)

theorem escape_split {u : Text} (hu : ']' ∉ u) (v : Text) :
    insideLink (escape (u ++ ']' :: v)) = escape u ∧ behindLink (escape (u ++ ']' :: v)) = escape v := by
  have hesc : escape (u ++ ']' :: v) = escape u ++ ']' :: escape v := by
    rw [escape_append, escape_cons]
    rfl
  rw [hesc]
  exact insideLink_append (fun h => hu ((mem_bracket_escape (Or.inr rfl)).mp h)) _

theorem linked_append {w : Text} (h : '[' ∉ w) (t : Text) : linked (w ++ t) = w ++ linked t := by
  induction w with
  | nil => rfl
  | cons c w ih =>
    simp only [List.mem_cons, not_or] at h
    rw [List.cons_append, linked_char fun hc => h.1 hc.1.symm, ih h.2, List.cons_append]

theorem linked_escape (t : Text) : linked (escape t) = textOf (linkMarks t) := by
  induction hn : t.length using Nat.strongRecOn generalizing t with
  | _ n ih =>
    subst hn
    cases t with
    | nil => rw [escape_nil, linked, linkMarks, textOf_nil]
    | cons c t =>
      by_cases hc : c = '['
      · subst hc
        have hesc : escape ('[' :: t) = '[' :: escape t := rfl
        have hmem : ']' ∈ escape t ↔ ']' ∈ t := mem_bracket_escape (Or.inr rfl)
        by_cases hclose : ']' ∈ t
        · obtain ⟨ht, hu⟩ := split_at_close hclose
          obtain ⟨h₁, h₂⟩ := escape_split hu (behindLink t)
          rw [← ht] at h₁ h₂
          rw [hesc, linked_span (hmem.mpr hclose), linkMarks_span hclose, h₁, h₂, linkUrl_escape, linkText_escape,
            ih _ (Nat.lt_succ_of_lt (length_behindLink hclose)) _ rfl]
          unfold ulink
          simp only [textOf_cons, textOf_append, textOf_chars, text_linkStart, text_linkStop, List.append_assoc]
        · rw [hesc, linked_char fun h => hclose (hmem.mp h.2), linkMarks_char fun h => hclose h.2,
            ih _ (Nat.lt_succ_self _) _ rfl]
          rfl
      · have hentity : '[' ∉ entity c := fun h => by
          by_cases hr : c ∈ reserved
          · exact absurd (mem_entityChars_of_mem_entity hr h) (by decide)
          · rw [entity_of_notMem hr] at h
            exact hc (List.mem_singleton.mp h).symm
        rw [escape_cons, linked_append hentity, linkMarks_char fun h => hc h.1, textOf_cons, text_char,
          ih _ (Nat.lt_succ_self _) _ rfl]

/-- The marks of marked-up text are those of its links, with spans marked up among them. -/
theorem exists_marks (t : Text) : ∃ ms, markUp t = textOf ms ∧ Spanned (linkMarks t) ms := by
  obtain ⟨ms, hms, hspan⟩ := exists_markUp (linkMarks t)
  exact ⟨ms, by rw [markUp, markUpLinks_eq, linked_escape, hms], hspan⟩

theorem markUp_nil : markUp [] = [] := by
  have hpair (k : Emphasis) : k.pair? [] = none := by
    have hturn : k.pairTurn (Cursor.start []) = .done none := by cases k <;> decide
    rw [Emphasis.pair?, Emphasis.pairFrom, Turn.run_of_done hturn]
  have hkind (k : Emphasis) : k.markUpKind [] = [] := Emphasis.markUpKind_of_none (hpair k)
  rw [markUp, escape_nil, markUpLinks_eq, linked, Emphasis.markUp]
  simp only [Emphasis.all, List.foldl_cons, List.foldl_nil, hkind]

/-! ### Line feeds -/

theorem lineFeed_notMem_escape {t : Text} (h : '\n' ∉ t) : '\n' ∉ escape t := by
  rw [mem_escape_iff (by decide) (by decide)]
  exact h

theorem mem_linkText {a : Char} {t : Text} (h : a ∈ linkText t) : a ∈ t := by
  have htrim := (Text.trimEnd_isPrefix _).mem h
  exact (List.dropWhile_suffix _).mem ((Text.trimStart_isSuffix _).mem htrim)

theorem lineFeed_notMem_linkMarks {t : Text} (h : '\n' ∉ t) : '\n' ∉ textOf (linkMarks t) := by
  induction hn : t.length using Nat.strongRecOn generalizing t with
  | _ n ih =>
    subst hn
    cases t with
    | nil =>
      rw [linkMarks]
      exact List.not_mem_nil
    | cons c t =>
      simp only [List.mem_cons, not_or] at h
      by_cases hc : c = '[' ∧ ']' ∈ t
      · obtain ⟨rfl, hclose⟩ := hc
        obtain ⟨ht, -⟩ := split_at_close hclose
        have hin : '\n' ∉ insideLink t := fun hmem => h.2 (by rw [ht]; simp [hmem])
        have hbehind : '\n' ∉ behindLink t := fun hmem => h.2 (by rw [ht]; simp [hmem])
        have hurl : '\n' ∉ escape (linkUrl (insideLink t)) :=
          lineFeed_notMem_escape fun hmem => hin ((List.takeWhile_prefix _).mem hmem)
        have htext : '\n' ∉ escape (linkText (insideLink t)) :=
          lineFeed_notMem_escape fun hmem => hin (mem_linkText hmem)
        have hrest := ih _ (Nat.lt_succ_of_lt (length_behindLink hclose)) hbehind rfl
        have hfront : '\n' ∉ "<ulink url=\"".toList := by decide
        have hback : '\n' ∉ "\">".toList := by decide
        have hstop : '\n' ∉ "</ulink>".toList := by decide
        rw [linkMarks_span hclose, textOf_cons, textOf_append, textOf_cons, textOf_chars, text_linkStart, text_linkStop]
        simp only [List.mem_append, not_or]
        exact ⟨⟨⟨hfront, hurl⟩, hback⟩, htext, hstop, hrest⟩
      · rw [linkMarks_char hc, textOf_cons, List.mem_append, not_or]
        refine ⟨?_, ih _ (Nat.lt_succ_self _) h.2 rfl⟩
        have := lineFeed_notMem_escape (t := [c]) (by simpa using h.1)
        simpa using this

theorem lineFeed_notMem_of_spanned {ms ns : List Mark} (hspan : Spanned ms ns) (h : '\n' ∉ textOf ms) :
    '\n' ∉ textOf ns := by
  induction hspan with
  | refl => exact h
  | @span as bs cs k _ _ ih =>
    have hstart : '\n' ∉ k.startTag := by cases k <;> decide
    have hstop : '\n' ∉ k.endTag := by cases k <;> decide
    simp only [textOf_append, textOf_cons, List.mem_append, not_or, text_start, text_stop] at ih ⊢
    exact ⟨ih.1, hstart, ih.2.2.1, hstop, ih.2.2.2.2⟩

theorem lineFeed_notMem_markUp {t : Text} (h : '\n' ∉ t) : '\n' ∉ markUp t := by
  obtain ⟨ms, hms, hspan⟩ := exists_marks t
  rw [hms]
  exact lineFeed_notMem_of_spanned hspan (lineFeed_notMem_linkMarks h)

end Inline
end WikiArticle
