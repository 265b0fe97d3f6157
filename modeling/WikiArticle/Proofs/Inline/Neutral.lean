import WikiArticle.Proofs.Inline.Linked
import WikiArticle.Proofs.Inline.Look

/-! Reserved characters among other characters that mean nothing to the markup. Replacing characters by ones
    that look alike to the search for pairs, that are brackets where they were, and that end a url where they
    did, replaces them in the marked-up text and changes nothing else. So a reserved character is marked up
    like any sign that means nothing: its entity creates, hides and moves no span. -/

namespace WikiArticle
namespace Text

/-- The text with every occurrence of a text that is not empty replaced by a character, from left to right. -/
def replaceAll (w : Text) (c : Char) : Text → Text
  | [] => []
  | a :: t => if w.isPrefixOf (a :: t) then c :: replaceAll w c (t.drop (w.length - 1)) else a :: replaceAll w c t
termination_by t => t.length
decreasing_by
  · simp only [List.length_drop, List.length_cons]
    omega
  · exact Nat.lt_succ_self _

variable {w : Text} {c : Char}

theorem replaceAll_self {a : Char} (t : Text) : replaceAll (a :: w) c (a :: w ++ t) = c :: replaceAll (a :: w) c t := by
  have hprefix : (a :: w).isPrefixOf (a :: (w ++ t)) = true :=
    List.isPrefixOf_iff_prefix.mpr ⟨t, rfl⟩
  rw [List.cons_append, replaceAll, if_pos hprefix, List.length_cons, Nat.add_sub_cancel, List.drop_left]

theorem replaceAll_cons {a : Char} {t : Text} (h : ¬w <+: a :: t) : replaceAll w c (a :: t) = a :: replaceAll w c t := by
  rw [replaceAll, if_neg fun hprefix => h (List.isPrefixOf_iff_prefix.mp hprefix)]

theorem replaceAll_append {a : Char} {u : Text} (h : a ∉ u) (t : Text) :
    replaceAll (a :: w) c (u ++ t) = u ++ replaceAll (a :: w) c t := by
  induction u with
  | nil => rfl
  | cons b u ih =>
    simp only [List.mem_cons, not_or] at h
    rw [List.cons_append, replaceAll_cons fun hprefix => h.1 (List.cons_prefix_cons.mp hprefix).1, ih h.2,
      List.cons_append]

end Text

namespace Inline
open Mark

/-! ### Marks whose characters are replaced -/

namespace Mark

/-- The mark with its characters replaced. -/
def map (f : Char → Char) : Mark → Mark
  | char c => char (f c)
  | linkStart url => linkStart (url.map f)
  | linkStop => linkStop
  | start k => start k
  | stop k => stop k

theorem look_map {f : Char → Char} (h : ∀ c, Look.ofChar (f c) = Look.ofChar c) (m : Mark) :
    (m.map f).look = m.look := by
  cases m with
  | char c => exact h c
  | _ => rfl

end Mark

namespace Emphasis

theorem put_map (f : Char → Char) (k : Emphasis) (p : Nat × Nat) (ms : List Mark) :
    put k p (ms.map (Mark.map f)) = (put k p ms).map (Mark.map f) := by
  rw [put, put, List.map_set, List.map_set]
  rfl

/-- Marks and marks that look like them are marked up alike. -/
theorem exists_markUpKind_map {f : Char → Char} (h : ∀ c, Look.ofChar (f c) = Look.ofChar c) (k : Emphasis)
    (ms : List Mark) : ∃ ns, markUpKind k (textOf ms) = textOf ns ∧
      markUpKind k (textOf (ms.map (Mark.map f))) = textOf (ns.map (Mark.map f)) := by
  -- A replacement takes two delimiters away, so the induction is on how many there are.
  induction hn : (textOf ms).count k.delimiter using Nat.strongRecOn generalizing ms with
  | _ n ih =>
    subst hn
    have hlooks : (ms.map (Mark.map f)).map Mark.look = ms.map Mark.look := by
      rw [List.map_map]
      exact List.map_congr_left fun m _ => look_map h m
    have hpair := pair?_textOf (k := k) ms
    have hpair' := pair?_textOf (k := k) (ms.map (Mark.map f))
    rw [hlooks] at hpair'
    cases hp : pairAmong k none (ms.map Mark.look) with
    | none =>
      rw [hp] at hpair hpair'
      exact ⟨ms, markUpKind_of_none hpair, markUpKind_of_none hpair'⟩
    | some p =>
      rw [hp] at hpair hpair'
      have hcount := count_replace hpair
      have hreplace := replace_pairOf hp
      have hreplace' : (pairOf [] (ms.map (Mark.map f)) p).replace k = _ := replace_pairOf (hlooks ▸ hp)
      rw [hreplace] at hcount
      obtain ⟨ns, hns, hns'⟩ := ih _ (by omega) (put k p ms) rfl
      refine ⟨ns, ?_, ?_⟩
      · rw [markUpKind_of_some hpair, hreplace, hns]
      · rw [markUpKind_of_some hpair', hreplace', put_map, hns']

theorem exists_markUp_map {f : Char → Char} (h : ∀ c, Look.ofChar (f c) = Look.ofChar c) (ms : List Mark) :
    ∃ ns, markUp (textOf ms) = textOf ns ∧ markUp (textOf (ms.map (Mark.map f))) = textOf (ns.map (Mark.map f)) := by
  obtain ⟨ns₁, h₁, h₁'⟩ := exists_markUpKind_map h .bold ms
  obtain ⟨ns₂, h₂, h₂'⟩ := exists_markUpKind_map h .italic ns₁
  obtain ⟨ns₃, h₃, h₃'⟩ := exists_markUpKind_map h .literal ns₂
  refine ⟨ns₃, ?_, ?_⟩
  · simp only [markUp, all, List.foldl_cons, List.foldl_nil, h₁, h₂, h₃]
  · simp only [markUp, all, List.foldl_cons, List.foldl_nil, h₁', h₂', h₃']

end Emphasis

/-! ### Links whose characters are replaced -/

/-- A replacement of characters that the markup does not see. -/
structure Neutral (f : Char → Char) : Prop where
  look : ∀ c, Look.ofChar (f c) = Look.ofChar c
  opening : ∀ c, f c = '[' ↔ c = '['
  closing : ∀ c, f c = ']' ↔ c = ']'
  url : ∀ c, isUrlChar (f c) = isUrlChar c

namespace Neutral
variable {f : Char → Char}

theorem trim_map (h : Neutral f) (t : Text) : Text.trim (t.map f) = (Text.trim t).map f := by
  have hblank : Text.isBlank ∘ f = Text.isBlank := funext fun c => congrArg Look.blank (h.look c)
  simp only [Text.trim, Text.trimEnd, Text.trimStart, ← List.map_reverse, List.dropWhile_map, hblank]

theorem link_map (h : Neutral f) (t : Text) :
    linkUrl (t.map f) = (linkUrl t).map f ∧ linkText (t.map f) = (linkText t).map f := by
  have hurl : isUrlChar ∘ f = isUrlChar := funext h.url
  rw [linkUrl, linkText, List.takeWhile_map, List.dropWhile_map, hurl, h.trim_map]
  exact ⟨rfl, rfl⟩

theorem split_map (h : Neutral f) (t : Text) : (']' ∈ t.map f ↔ ']' ∈ t) ∧
    insideLink (t.map f) = (insideLink t).map f ∧ behindLink (t.map f) = (behindLink t).map f := by
  have hclose : (fun c => c != ']') ∘ f = fun c => c != ']' := by
    funext c
    rw [Function.comp, Bool.eq_iff_iff, bne_iff_ne, bne_iff_ne, ne_eq, h.closing]
  refine ⟨?_, ?_, ?_⟩
  · simp [List.mem_map, h.closing]
  · rw [insideLink, List.takeWhile_map, hclose, insideLink]
  · rw [behindLink, List.dropWhile_map, hclose, behindLink, List.map_tail]

theorem linkMarks_map (h : Neutral f) (t : Text) : linkMarks (t.map f) = (linkMarks t).map (Mark.map f) := by
  induction hn : t.length using Nat.strongRecOn generalizing t with
  | _ n ih =>
    subst hn
    cases t with
    | nil => rw [List.map_nil, linkMarks, List.map_nil]
    | cons c t =>
      obtain ⟨hmem, hinside, hbehind⟩ := h.split_map t
      obtain ⟨hurl, htext⟩ := h.link_map (insideLink t)
      rw [List.map_cons]
      by_cases hc : c = '[' ∧ ']' ∈ t
      · obtain ⟨rfl, hclose⟩ := hc
        rw [(h.opening '[').mpr rfl, linkMarks_span (hmem.mpr hclose), linkMarks_span hclose, hinside, hbehind, hurl,
          htext, ih _ (Nat.lt_succ_of_lt (length_behindLink hclose)) _ rfl]
        simp [Mark.map]
      · have hc' : ¬(f c = '[' ∧ ']' ∈ t.map f) := by rwa [h.opening, hmem]
        rw [linkMarks_char hc, linkMarks_char hc', ih _ (Nat.lt_succ_self _) _ rfl]
        rfl

/-- A replacement of characters that the markup does not see is the same before and after the marking up. -/
theorem exists_marks_map (h : Neutral f) (t : Text) :
    ∃ ms, markUp t = textOf ms ∧ markUp (t.map f) = textOf (ms.map (Mark.map f)) := by
  obtain ⟨ms, hms, hms'⟩ := Emphasis.exists_markUp_map h.look (linkMarks t)
  refine ⟨ms, ?_, ?_⟩
  · rw [markUp, markUpLinks_eq, linked_escape, hms]
  · rw [markUp, markUpLinks_eq, linked_escape, h.linkMarks_map, hms']

end Neutral

/-! ### Reserved characters -/

/-- The replacement of one character by another. -/
def rename (r p c : Char) : Char := if c = r then p else c

/-- A character that means nothing to the markup: neither white space nor a letter or number, nor one that the
    markup is written with. -/
structure Meaningless (c : Char) : Prop where
  not_blank : Text.isBlank c = false
  not_word : Text.isAlphanumeric c = false
  not_markup : c ∉ ['[', ']', '"', '*', '_', '\x60']

theorem meaningless_of_reserved {c : Char} (h : c ∈ reserved) : Meaningless c := by
  simp only [reserved, List.mem_cons, List.not_mem_nil, or_false] at h
  rcases h with rfl | rfl | rfl <;> exact ⟨by decide, by decide, by decide⟩

namespace Meaningless
variable {c r p : Char}

theorem look (h : Meaningless c) : Look.ofChar c = ⟨none, none, false, false⟩ := by
  have hdelimiter : (Emphasis.all.find? fun k => k.delimiter == c) = none := by
    refine List.find?_eq_none.mpr fun k _ hk => h.not_markup ?_
    rw [← beq_iff_eq.mp hk]
    cases k <;> decide
  rw [Look.ofChar, hdelimiter, h.not_blank, h.not_word]

theorem isUrlChar (h : Meaningless c) : isUrlChar c = true := by
  have hspace : c ≠ ' ' := by
    rintro rfl
    exact absurd h.not_blank (by decide)
  have hquote : c ≠ '"' := by
    rintro rfl
    exact h.not_markup (by decide)
  simp [Inline.isUrlChar, hspace, hquote]

theorem ne_of_markup (h : Meaningless c) {a : Char} (ha : a ∈ ['[', ']', '"', '*', '_', '\x60']) : c ≠ a := by
  rintro rfl
  exact h.not_markup ha

/-- The markup does not see one such character put in the place of another. -/
theorem neutral (hr : Meaningless r) (hp : Meaningless p) : Neutral (rename r p) := by
  have hcases (c : Char) : c = r ∧ rename r p c = p ∨ rename r p c = c := by
    unfold rename
    split
    · rename_i hc
      exact Or.inl ⟨hc, rfl⟩
    · exact Or.inr rfl
  have hmarkup {a : Char} (ha : a ∈ ['[', ']', '"', '*', '_', '\x60']) (c : Char) : rename r p c = a ↔ c = a := by
    rcases hcases c with ⟨rfl, hc⟩ | hc
    · rw [hc]
      exact ⟨fun e => absurd e (hp.ne_of_markup ha), fun e => absurd e (hr.ne_of_markup ha)⟩
    · rw [hc]
  refine ⟨fun c => ?_, hmarkup (by decide), hmarkup (by decide), fun c => ?_⟩
  · rcases hcases c with ⟨rfl, hc⟩ | hc
    · rw [hc, hp.look, hr.look]
    · rw [hc]
  · rcases hcases c with ⟨rfl, hc⟩ | hc
    · rw [hc, hp.isUrlChar, hr.isUrlChar]
    · rw [hc]

end Meaningless

/-! ### Entities -/

theorem exists_entity_eq {r : Char} (hr : r ∈ reserved) : ∃ w, entity r = '&' :: w ∧ '&' ∉ w := by
  simp only [reserved, List.mem_cons, List.not_mem_nil, or_false] at hr
  rcases hr with rfl | rfl | rfl
  · exact ⟨"amp;".toList, rfl, by decide⟩
  · exact ⟨"lt;".toList, rfl, by decide⟩
  · exact ⟨"gt;".toList, rfl, by decide⟩

/-- No entity begins another one. -/
theorem not_entity_prefix {c r : Char} (hc : c ∈ reserved) (hr : r ∈ reserved) (hne : c ≠ r) (t : Text) :
    ¬entity r <+: entity c ++ t := by
  simp only [reserved, List.mem_cons, List.not_mem_nil, or_false] at hc hr
  rcases hc with rfl | rfl | rfl <;> rcases hr with rfl | rfl | rfl <;>
    first | exact absurd rfl hne | simp [entity, List.cons_prefix_cons]

theorem replaceAll_entity {r p : Char} (hr : r ∈ reserved) (hp : p ∉ reserved) (c : Char) (t : Text) :
    Text.replaceAll (entity r) p (entity c ++ t) = entity (rename r p c) ++ Text.replaceAll (entity r) p t := by
  obtain ⟨w, hw, hamp⟩ := exists_entity_eq hr
  by_cases hcr : c = r
  · rw [rename, if_pos hcr, hcr, entity_of_notMem hp, hw, Text.replaceAll_self]
    rfl
  · rw [rename, if_neg hcr]
    by_cases hc : c ∈ reserved
    · obtain ⟨v, hv, hamp'⟩ := exists_entity_eq hc
      have hnot := not_entity_prefix hc hr hcr t
      rw [hv, List.cons_append] at hnot ⊢
      rw [Text.replaceAll_cons hnot, hw, Text.replaceAll_append hamp', List.cons_append]
    · have hamp' : '&' ∉ entity c := by
        rw [entity_of_notMem hc, List.mem_singleton]
        rintro rfl
        exact hc (by decide)
      rw [hw, Text.replaceAll_append hamp']

theorem replaceAll_escape {r p : Char} (hr : r ∈ reserved) (hp : p ∉ reserved) (u t : Text) :
    Text.replaceAll (entity r) p (escape u ++ t) = escape (u.map (rename r p)) ++ Text.replaceAll (entity r) p t := by
  induction u with
  | nil => rfl
  | cons c u ih =>
    rw [escape_cons, List.append_assoc, replaceAll_entity hr hp, ih, List.map_cons, escape_cons, List.append_assoc]

theorem replaceAll_textOf {r p : Char} (hr : r ∈ reserved) (hp : p ∉ reserved) (ms : List Mark) :
    Text.replaceAll (entity r) p (textOf ms) = textOf (ms.map (Mark.map (rename r p))) := by
  obtain ⟨w, hw, -⟩ := exists_entity_eq hr
  have hkeep {u : Text} (hu : '&' ∉ u) (t : Text) :
      Text.replaceAll (entity r) p (u ++ t) = u ++ Text.replaceAll (entity r) p t := by
    rw [hw, Text.replaceAll_append hu]
  induction ms with
  | nil => rw [textOf_nil, Text.replaceAll, List.map_nil, textOf_nil]
  | cons m ms ih =>
    rw [List.map_cons, textOf_cons, textOf_cons, ← ih]
    cases m with
    | char c => exact replaceAll_entity hr hp c _
    | linkStart url =>
      rw [Mark.map, text_linkStart, text_linkStart]
      simp only [List.append_assoc]
      rw [hkeep (by decide), replaceAll_escape hr hp, hkeep (by decide)]
    | linkStop => exact hkeep (by decide) _
    | start k => exact hkeep (by cases k <;> decide) _
    | stop k => exact hkeep (by cases k <;> decide) _

/-- To put a character that means nothing to the markup in the place of a reserved one before the marking up is
    to put it in the place of the entity of that one after the marking up. -/
theorem markUp_rename {r p : Char} (hr : r ∈ reserved) (hp : p ∉ reserved) (hmeaningless : Meaningless p) (t : Text) :
    markUp (t.map (rename r p)) = Text.replaceAll (entity r) p (markUp t) := by
  obtain ⟨ms, hms, hms'⟩ := ((meaningless_of_reserved hr).neutral hmeaningless).exists_marks_map t
  rw [hms, hms', replaceAll_textOf hr hp]

/-- A span around `a<b` is marked up like one around `a!b`. -/
theorem markUp_rename_lt : '<' ∈ reserved ∧ '!' ∉ reserved ∧ Meaningless '!' ∧
    markUp "*a!b*".toList = Text.replaceAll (entity '<') '!' (markUp "*a<b*".toList) := by
  have hr : '<' ∈ reserved := by decide
  have hp : '!' ∉ reserved := by decide
  have hmeaningless : Meaningless '!' := ⟨by decide, by decide, by decide⟩
  exact ⟨hr, hp, hmeaningless, markUp_rename hr hp hmeaningless "*a<b*".toList⟩

end Inline
end WikiArticle
