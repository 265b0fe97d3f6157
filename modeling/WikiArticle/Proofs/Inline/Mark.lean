import WikiArticle.Proofs.Inline.Entity
import WikiArticle.Proofs.Inline.Pair

/-! Marked-up text as the characters of its source with the tags that have been put among them. Marking up a
    span turns two delimiters of the source into tags and leaves every other mark where it is, so a text
    of marks is a text of marks after any number of spans have been marked up, and the tags in it stay
    balanced. -/

namespace WikiArticle
namespace Inline
open Markup

/-- A part of marked-up text. -/
inductive Mark where
  /-- A character of the source. -/
  | char (c : Char)
  /-- The tag that starts a link to the url. -/
  | linkStart (url : Text)
  /-- The tag that ends a link. -/
  | linkStop
  /-- The tag that starts a span. -/
  | start (k : Emphasis)
  /-- The tag that ends a span. -/
  | stop (k : Emphasis)
  deriving DecidableEq, Repr

namespace Mark

/-- What stands between the brackets of the tag that starts a link. -/
def linkTag (url : Text) : Text := "ulink url=\"".toList ++ escape url ++ ['"']

/-- The text that a mark is written as. -/
def text : Mark → Text
  | char c => entity c
  | linkStart url => '<' :: linkTag url ++ ['>']
  | linkStop => "</ulink>".toList
  | start k => k.startTag
  | stop k => k.endTag

@[simp] theorem text_char (c : Char) : (char c).text = entity c := rfl

theorem text_linkStart (url : Text) : (linkStart url).text = "<ulink url=\"".toList ++ escape url ++ "\">".toList := by
  change '<' :: ("ulink url=\"".toList ++ escape url ++ ['"']) ++ ['>'] = _
  simp

theorem text_linkStop : linkStop.text = "</ulink>".toList := rfl

theorem text_start (k : Emphasis) : (start k).text = k.startTag := rfl

theorem text_stop (k : Emphasis) : (stop k).text = k.endTag := rfl

/-- The text of some marks, one after the other. -/
def textOf (ms : List Mark) : Text := ms.flatMap text

@[simp] theorem textOf_nil : textOf [] = [] := rfl

@[simp] theorem textOf_cons (m : Mark) (ms : List Mark) : textOf (m :: ms) = m.text ++ textOf ms := rfl

@[simp] theorem textOf_append (ms ns : List Mark) : textOf (ms ++ ns) = textOf ms ++ textOf ns :=
  List.flatMap_append

theorem textOf_chars (t : Text) : textOf (t.map char) = escape t := by
  induction t with
  | nil => rfl
  | cons c t ih => rw [List.map_cons, textOf_cons, ih, escape_cons, text_char]

/-! ### Tokens of marks -/

theorem gt_notMem_linkTag (url : Text) : '>' ∉ linkTag url :=
  gt_notMem_quoted "ulink url=\"".toList (by decide) url

/-- A mark is a character of the source or a tag. -/
theorem text_cases (m : Mark) : (∃ c, m = char c) ∨ ∃ w, '>' ∉ w ∧ m.text = '<' :: w ++ ['>'] := by
  cases m with
  | char c => exact Or.inl ⟨c, rfl⟩
  | linkStart url => exact Or.inr ⟨_, gt_notMem_linkTag url, rfl⟩
  | linkStop => exact Or.inr ⟨"/ulink".toList, by decide, rfl⟩
  | start k => cases k with
    | bold => exact Or.inr ⟨"emphasis role=\"bold\"".toList, by decide, rfl⟩
    | italic => exact Or.inr ⟨"emphasis".toList, by decide, rfl⟩
    | literal => exact Or.inr ⟨"literal".toList, by decide, rfl⟩
  | stop k => cases k with
    | bold => exact Or.inr ⟨"/emphasis".toList, by decide, rfl⟩
    | italic => exact Or.inr ⟨"/emphasis".toList, by decide, rfl⟩
    | literal => exact Or.inr ⟨"/literal".toList, by decide, rfl⟩

theorem lt_notMem_entity (c : Char) : '<' ∉ entity c := fun h =>
  lt_notMem_escape [c] (List.mem_flatMap.mpr ⟨c, List.mem_singleton_self c, h⟩)

theorem whole_text (m : Mark) : Whole m.text := by
  rcases text_cases m with ⟨c, rfl⟩ | ⟨w, hw, hm⟩
  · exact whole_chars (lt_notMem_entity c)
  · rw [hm]
    exact whole_tag hw

theorem whole_textOf (ms : List Mark) : Whole (textOf ms) := by
  induction ms with
  | nil => exact whole_nil
  | cons m ms ih => exact (whole_text m).append ih

/-! ### Finding a character in marks -/

theorem delimiter_notMem_reserved (k : Emphasis) : k.delimiter ∉ reserved := by cases k <;> decide

theorem delimiter_notMem_entityChars (k : Emphasis) : k.delimiter ∉ entityChars := by cases k <;> decide

theorem delimiter_in_mark {k : Emphasis} {m : Mark} {u v : Text} (hu : Whole u) (h : m.text = u ++ k.delimiter :: v) :
    m = char k.delimiter ∧ u = [] ∧ v = [] := by
  rcases text_cases m with ⟨c, rfl⟩ | ⟨w, hw, hm⟩
  · obtain ⟨rfl, hu, hv⟩ := entity_split (delimiter_notMem_entityChars k) h
    exact ⟨rfl, hu, hv⟩
  · exfalso
    rw [hm] at h
    cases u with
    | nil =>
      simp only [List.nil_append, List.cons_append, List.cons.injEq] at h
      exact absurd h.1 (by cases k <;> decide)
    | cons a u =>
      simp only [List.cons_append, List.cons.injEq] at h
      obtain ⟨rfl, h⟩ := h
      exact not_whole_of_tag hw h hu

/-- A delimiter outside the tags of a text of marks is one of the marks. -/
theorem split_at_delimiter {k : Emphasis} {ms : List Mark} {u v : Text} (hu : Whole u)
    (h : textOf ms = u ++ k.delimiter :: v) :
    ∃ as bs, ms = as ++ char k.delimiter :: bs ∧ textOf as = u ∧ textOf bs = v := by
  induction ms generalizing u with
  | nil => simp at h
  | cons m ms ih =>
    rw [textOf_cons] at h
    -- The delimiter stands behind the first mark, right at its end, or in it.
    rcases List.append_eq_append_iff.mp h with ⟨x, hx, hy⟩ | ⟨x, hx, hy⟩
    · subst hx
      obtain ⟨as, bs, rfl, rfl, rfl⟩ := ih (whole_of_append (whole_text m) hu) hy
      exact ⟨m :: as, bs, rfl, rfl, rfl⟩
    · cases x with
      | nil =>
        rw [List.append_nil] at hx
        obtain ⟨as, bs, rfl, has, rfl⟩ := ih whole_nil (u := []) hy.symm
        exact ⟨m :: as, bs, rfl, by rw [textOf_cons, has, hx, List.append_nil], rfl⟩
      | cons b x =>
        simp only [List.cons_append, List.cons.injEq] at hy
        obtain ⟨rfl, rfl⟩ := hy
        obtain ⟨rfl, rfl, rfl⟩ := delimiter_in_mark hu hx
        exact ⟨[], ms, rfl, rfl, rfl⟩

end Mark
end Inline
end WikiArticle
