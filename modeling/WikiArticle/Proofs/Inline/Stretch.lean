import WikiArticle.Proofs.Inline.Linked

/-! A text read as a row of stretches that each end with a link, and a rest in which no bracket is closed. The
    links are those of the first opening bracket that has a closing one behind it, up to the first such, then
    of what stands behind that, and so on. Marking up the links of a text turns each link of the row into its
    element and keeps all else. -/

namespace WikiArticle
namespace Inline

/-- Some opening bracket of the text has a closing one behind it. -/
def HasLink (t : Text) : Prop := ∃ u v, t = u ++ '[' :: v ∧ ']' ∈ v

/-- A text up to the end of its first link: what stands before the link, its url, and what stands between the
    url and the closing bracket. The url is the longest one that holds no space, quote or closing bracket. -/
structure Stretch where
  before : Text
  url : Text
  words : Text
  opening_notMem : '[' ∉ before
  url_free : ∀ c ∈ url, c ≠ ' ' ∧ c ≠ '"' ∧ c ≠ ']'
  words_begin : ∀ c, words.head? = some c → c = ' ' ∨ c = '"'
  closing_notMem : ']' ∉ words

namespace Stretch

/-- What stands between the brackets of the link. -/
def inside (s : Stretch) : Text := s.url ++ s.words

/-- The stretch as it is given. -/
def source (s : Stretch) : Text := s.before ++ '[' :: (s.inside ++ [']'])

/-- The stretch with its link marked up. -/
def written (s : Stretch) : Text := s.before ++ ulink s.url (Text.trim s.words)

theorem closing_notMem_inside (s : Stretch) : ']' ∉ s.inside := fun h => by
  rcases List.mem_append.mp h with h | h
  · exact (s.url_free _ h).2.2 rfl
  · exact s.closing_notMem h

theorem isUrlChar_of_mem (s : Stretch) : ∀ c ∈ s.url, isUrlChar c = true := fun c hc => by
  obtain ⟨hspace, hquote, -⟩ := s.url_free c hc
  simp [isUrlChar, hspace, hquote]

theorem link_inside (s : Stretch) : linkUrl s.inside = s.url ∧ linkText s.inside = Text.trim s.words := by
  rw [linkUrl, linkText, inside]
  cases hwords : s.words with
  | nil =>
    rw [List.append_nil, List.takeWhile_eq_self_iff.mpr s.isUrlChar_of_mem,
      List.dropWhile_eq_nil_iff.mpr s.isUrlChar_of_mem]
    exact ⟨rfl, rfl⟩
  | cons c w =>
    have hc : isUrlChar c = false := by
      rcases s.words_begin c (by rw [hwords]; rfl) with rfl | rfl <;> rfl
    obtain ⟨htake, hdrop⟩ := takeWhile_append_cons s.isUrlChar_of_mem hc w
    rw [htake, hdrop]
    exact ⟨rfl, rfl⟩

theorem linked_source (s : Stretch) (after : Text) : linked (s.source ++ after) = s.written ++ linked after := by
  have hsource : s.source ++ after = s.before ++ '[' :: (s.inside ++ ']' :: after) := by simp [source]
  obtain ⟨hinside, hbehind⟩ := insideLink_append s.closing_notMem_inside after
  have hclose : ']' ∈ s.inside ++ ']' :: after := by simp
  rw [hsource, linked_append s.opening_notMem, linked_span hclose, hinside, hbehind, s.link_inside.1, s.link_inside.2,
    written, List.append_assoc]

/-- The stretch of a link with some text between its brackets. -/
def ofInside (before inside : Text) (hb : '[' ∉ before) (hi : ']' ∉ inside) : Stretch where
  before := before
  url := linkUrl inside
  words := inside.dropWhile isUrlChar
  opening_notMem := hb
  url_free c hc := by
    have hurl : isUrlChar c = true := List.all_eq_true.mp List.all_takeWhile c hc
    simp only [isUrlChar, Bool.and_eq_true, bne_iff_ne] at hurl
    exact ⟨hurl.1, hurl.2, fun e => hi (e ▸ (List.takeWhile_prefix _).mem hc)⟩
  words_begin c hc := by
    have hnot := List.head?_dropWhile_not isUrlChar inside
    rw [hc] at hnot
    simpa [isUrlChar, Classical.or_iff_not_imp_left] using hnot
  closing_notMem h := hi ((List.dropWhile_suffix _).mem h)

theorem source_ofInside {before inside : Text} (hb : '[' ∉ before) (hi : ']' ∉ inside) :
    (ofInside before inside hb hi).source = before ++ '[' :: (inside ++ [']']) := by
  have hsplit : linkUrl inside ++ inside.dropWhile isUrlChar = inside := List.takeWhile_append_dropWhile
  rw [source, Stretch.inside, ofInside, hsplit]

end Stretch

/-! ### The first link -/

theorem exists_stretch {t : Text} (h : HasLink t) : ∃ (s : Stretch) (after : Text), t = s.source ++ after := by
  obtain ⟨u, v, rfl, hv⟩ := h
  -- The bracket before `v` need not be the first one, but what is behind the first one holds `v`.
  obtain ⟨before, rest, hsplit, hb⟩ := List.eq_append_cons_of_mem (show '[' ∈ u ++ '[' :: v by simp)
  have hrest : ']' ∈ rest := by
    rcases Text.split_append hsplit with ⟨w, -, rfl⟩ | ⟨w, rfl, hw⟩
    · simp [hv]
    · cases w with
      | nil =>
        cases hw
        exact hv
      | cons a w =>
        obtain ⟨rfl, -⟩ := List.cons.inj hw
        exact absurd (by simp) hb
  obtain ⟨hclose, hi⟩ := split_at_close hrest
  refine ⟨Stretch.ofInside before (insideLink rest) hb hi, behindLink rest, ?_⟩
  rw [hsplit, Stretch.source_ofInside]
  conv => lhs; rw [hclose]
  simp

theorem Stretch.hasLink (s : Stretch) (after : Text) : HasLink (s.source ++ after) :=
  ⟨s.before, s.inside ++ ']' :: after, by simp [source], by simp⟩

theorem linked_of_not_hasLink {t : Text} (h : ¬HasLink t) : linked t = t := by
  induction t with
  | nil => rw [linked]
  | cons c t ih =>
    have hc : ¬(c = '[' ∧ ']' ∈ t) := by
      rintro ⟨rfl, hclose⟩
      exact h ⟨[], t, rfl, hclose⟩
    have ht : ¬HasLink t := by
      rintro ⟨u, v, rfl, hv⟩
      exact h ⟨c :: u, v, rfl, hv⟩
    rw [linked_char hc, ih ht]

/-! ### The row of links -/

theorem exists_row (t : Text) : ∃ (row : List Stretch) (rest : Text), t = row.flatMap Stretch.source ++ rest ∧
    ¬HasLink rest ∧ linked t = row.flatMap Stretch.written ++ rest := by
  induction hn : t.length using Nat.strongRecOn generalizing t with
  | _ n ih =>
    subst hn
    by_cases h : HasLink t
    · obtain ⟨s, after, rfl⟩ := exists_stretch h
      have hshorter : after.length < (s.source ++ after).length := by
        simp only [Stretch.source, List.length_append, List.length_cons]
        omega
      obtain ⟨row, rest, hafter, hrest, hlinked⟩ := ih _ hshorter after rfl
      refine ⟨s :: row, rest, ?_, hrest, ?_⟩
      · rw [List.flatMap_cons, List.append_assoc, ← hafter]
      · rw [Stretch.linked_source, hlinked, List.flatMap_cons, List.append_assoc]
    · exact ⟨[], t, rfl, h, linked_of_not_hasLink h⟩

/-- A text in which an opening bracket has a closing one behind it has a first link, and is marked up as the
    text before that link, the element of the link, and what stands behind the link marked up in the same
    way. Any other text stays as it is. So every text is a row of stretches that each end with a link and a
    rest in which no opening bracket is closed, and exactly the links of the row become elements. -/
theorem markUpLinks_reading (t : Text) :
    (HasLink t ↔ ∃ (s : Stretch) (after : Text), t = s.source ++ after) ∧
    (∀ (s : Stretch) (after : Text), t = s.source ++ after → markUpLinks t = s.written ++ markUpLinks after) ∧
    (¬HasLink t → markUpLinks t = t) ∧
    ∃ (row : List Stretch) (rest : Text), t = row.flatMap Stretch.source ++ rest ∧ ¬HasLink rest ∧
      markUpLinks t = row.flatMap Stretch.written ++ rest := by
  simp only [markUpLinks_eq]
  refine ⟨⟨exists_stretch, ?_⟩, ?_, linked_of_not_hasLink, exists_row t⟩
  · rintro ⟨s, after, rfl⟩
    exact s.hasLink after
  · rintro s after rfl
    exact s.linked_source after

end Inline
end WikiArticle
