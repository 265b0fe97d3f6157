import WikiArticle.Proofs.Body.Content
import WikiArticle.Proofs.Inline.Linked

/-! Pictures read as links. A picture is recognised by its first and its last bracket alone, while a link ends
    at the first closing bracket and its url at the first quote. So the two say the same of a line just as
    long as the url of the picture holds neither; a line of several links can pass for one picture. -/

namespace WikiArticle
namespace Picture
open Inline

theorem url?_eq_some {t url : Text} : url? t = some url ↔ t = '[' :: (url ++ [']']) ∧ isUrl url = true := by
  constructor
  · intro h
    unfold url? at h
    split at h
    · rename_i rest
      split at h
      · rename_i hrest
        cases h
        simp only [Bool.and_eq_true, beq_iff_eq] at hrest
        obtain ⟨front, hfront⟩ := List.getLast?_eq_some_iff.mp hrest.1
        refine ⟨?_, hrest.2⟩
        rw [hfront, List.dropLast_concat]
      · cases h
    · cases h
  · rintro ⟨rfl, hurl⟩
    simp [url?, hurl]

theorem space_notMem_of_isUrl {url : Text} (h : isUrl url = true) : ' ' ∉ url := by
  simp only [isUrl, Bool.and_eq_true, Bool.not_eq_true', List.contains_eq_mem, decide_eq_false_iff_not] at h
  exact h.1

theorem ofText_of_url? {t url : Text} (h : url? t = some url) : Line.ofText t = .picture url := by
  obtain ⟨rfl, -⟩ := url?_eq_some.mp h
  have hblank : Text.isAllBlank ('[' :: (url ++ [']'])) = false := rfl
  have hcomment : isComment ('[' :: (url ++ [']'])) = false := rfl
  have hfence : Fence.ofText? ('[' :: (url ++ [']'])) = none := by simp [Fence.ofText?, Fence.text]
  have hheading : Heading.ofText? ('[' :: (url ++ [']'])) = none := Body.heading?_eq_none (by decide) _
  have hrow : Row.isRow ('[' :: (url ++ [']'])) = false := rfl
  simp [Line.ofText, hblank, hcomment, hfence, hheading, hrow, h]

/-! ### The first link of a picture -/

theorem behindLink_eq_nil_iff (url : Text) : behindLink (url ++ [']']) = [] ↔ ']' ∉ url := by
  constructor
  · intro hnil
    obtain ⟨hsplit, hinside⟩ := split_at_close (t := url ++ [']']) (by simp)
    rw [hnil] at hsplit
    rwa [List.append_cancel_right hsplit]
  · exact fun h => (insideLink_append h []).2

theorem linkUrl_eq_self_iff {url : Text} (h : ' ' ∉ url) : linkUrl url = url ↔ '"' ∉ url := by
  rw [linkUrl, List.takeWhile_eq_self_iff]
  constructor
  · intro hall hquote
    exact absurd (hall _ hquote) (by decide)
  · intro hquote c hc
    have hspace : c ≠ ' ' := fun e => h (e ▸ hc)
    have hquote : c ≠ '"' := fun e => hquote (e ▸ hc)
    simp [isUrlChar, hspace, hquote]

theorem linkUrl_insideLink_iff {url : Text} (h : ' ' ∉ url) :
    linkUrl (insideLink (url ++ [']'])) = url ↔ ']' ∉ url ∧ '"' ∉ url := by
  constructor
  · intro hurl
    have hclose : ']' ∉ url := by
      obtain ⟨-, hinside⟩ := split_at_close (t := url ++ [']']) (by simp)
      rw [← hurl]
      exact fun hmem => hinside ((List.takeWhile_prefix _).mem hmem)
    rw [(insideLink_append hclose []).1] at hurl
    exact ⟨hclose, (linkUrl_eq_self_iff h).mp hurl⟩
  · rintro ⟨hclose, hquote⟩
    rw [(insideLink_append hclose []).1]
    exact (linkUrl_eq_self_iff h).mpr hquote

theorem linkText_eq_nil {inside : Text} (h : linkUrl inside = inside) : linkText inside = [] := by
  have hdrop : inside.dropWhile isUrlChar = [] := by
    have hsplit : linkUrl inside ++ inside.dropWhile isUrlChar = inside := List.takeWhile_append_dropWhile
    rw [h] at hsplit
    simpa using hsplit
  rw [linkText, hdrop]
  rfl

theorem ulink_ne_nil (url text : Text) : ulink url text ≠ [] := by
  unfold ulink
  exact List.append_ne_nil_of_right_ne_nil _ (by decide)

theorem linked_eq_nil_iff (t : Text) : linked t = [] ↔ t = [] := by
  cases t with
  | nil => simp [linked]
  | cons c t =>
    by_cases h : c = '[' ∧ ']' ∈ t
    · obtain ⟨rfl, hclose⟩ := h
      simp only [linked_span hclose, List.append_eq_nil_iff, ulink_ne_nil, false_and, reduceCtorEq]
    · simp [linked_char h]

/-- Every line that is recognised as a picture begins with a link. The link is all of the line, and the line is
    marked up as the element of this one link, just if no closing bracket stands in the url of the picture;
    it has the url of the picture, and no words, just if no quote stands there either. -/
theorem link_of_url? {t url : Text} (h : url? t = some url) : Line.ofText t = .picture url ∧
    ∃ link, LinkSpan.at? (Cursor.start t) = some link ∧
      (link.closing.atEnd = true ↔ ']' ∉ url) ∧ (markUpLinks t = link.ulink ↔ ']' ∉ url) ∧
      (link.url = url ∧ link.text = [] ↔ ']' ∉ url ∧ '"' ∉ url) := by
  obtain ⟨rfl, hurl⟩ := url?_eq_some.mp h
  have hspace := space_notMem_of_isUrl hurl
  have hclose : ']' ∈ url ++ [']'] := by simp
  obtain ⟨hsplit, hinside⟩ := split_at_close hclose
  obtain ⟨link, hlink, hlinkUrl, hlinkText, hclosing⟩ := at?_of_closed hinside [] (behindLink (url ++ [']']))
  rw [← hsplit] at hlink
  have hrest := behindLink_eq_nil_iff url
  have hulink : markUpLinks ('[' :: (url ++ [']'])) = link.ulink ++ linked (behindLink (url ++ [']'])) := by
    have helement : link.ulink = ulink link.url link.text := rfl
    rw [markUpLinks_eq, linked_span hclose, helement, hlinkUrl, hlinkText]
  refine ⟨ofText_of_url? h, link, hlink, ?_, ?_, ?_⟩
  · rw [hclosing, Cursor.atEnd, List.isEmpty_iff]
    exact hrest
  · rw [hulink, List.append_right_eq_self, linked_eq_nil_iff]
    exact hrest
  · rw [hlinkUrl, hlinkText, ← linkUrl_insideLink_iff hspace]
    refine ⟨And.left, fun hsame => ⟨hsame, ?_⟩⟩
    have hnone := ((linkUrl_insideLink_iff hspace).mp hsame).1
    rw [(insideLink_append hnone []).1] at hsame ⊢
    exact linkText_eq_nil hsame

/-- The two links `[a]` and `[b.png]` side by side pass for one picture, of the url `a][b.png`. -/
theorem link_of_two_links : url? "[a][b.png]".toList = some "a][b.png".toList ∧
    ∃ link, LinkSpan.at? (Cursor.start "[a][b.png]".toList) = some link ∧ link.closing.atEnd = false ∧
      ¬(link.url = "a][b.png".toList ∧ link.text = []) := by
  have hurl : url? "[a][b.png]".toList = some "a][b.png".toList := by decide
  have hclose : ']' ∈ "a][b.png".toList := by decide
  obtain ⟨-, link, hlink, hend, -, hsame⟩ := link_of_url? hurl
  refine ⟨hurl, link, hlink, ?_, fun h => (hsame.mp h).1 hclose⟩
  rw [← Bool.not_eq_true, hend]
  exact fun h => h hclose

end Picture
end WikiArticle
