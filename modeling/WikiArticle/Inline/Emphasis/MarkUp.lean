import WikiArticle.Inline.Emphasis.Pair

/-! Marking up emphasised spans. The first pair of delimiters of a kind is replaced by the tags of the
    kind until the text has no pair left, one kind after the other. Every replacement takes two
    delimiters away and adds none. -/

namespace WikiArticle
namespace Inline
namespace Emphasis

/-- The text with the two delimiters of a pair replaced by the tags of the kind. -/
def Pair.replace (p : Pair) (k : Emphasis) : Text :=
  p.opening.passed.reverse ++
    (k.startTag ++ ((p.opening.skip 1).upTo p.closing ++ (k.endTag ++ p.closing.ahead.tail)))

theorem Pair.Cuts.replace {p : Pair} {k : Emphasis} {before inside after : Text} (h : p.Cuts k before inside after) :
    p.replace k = before ++ k.startTag ++ inside ++ k.endTag ++ after := by
  have hs : p.opening.skip 1 = ⟨k.delimiter :: before.reverse, inside ++ k.delimiter :: after, 0⟩ := by
    rw [h.opening, Cursor.skip_one (a := k.delimiter) (by simp [Cursor.isAt, Cursor.char?]) k.utf8Size_delimiter]
    rfl
  have hu : (p.opening.skip 1).upTo p.closing = inside :=
    Cursor.Spans.upTo ⟨by rw [hs, h.closing], by rw [hs, h.closing]⟩
  rw [Pair.replace, hu, h.opening, h.closing]
  simp

theorem count_replace {k : Emphasis} {t : Text} {p : Pair} (h : pair? k t = some p) :
    (p.replace k).count k.delimiter + 2 = t.count k.delimiter := by
  obtain ⟨before, inside, after, hcut, rfl⟩ := cuts_of_pair? h
  simp only [hcut.replace, List.count_append, List.count_cons_self, count_startTag, count_endTag]
  omega

/-- The text with every span of one kind marked up. -/
def markUpKind (k : Emphasis) (t : Text) : Text :=
  match h : pair? k t with
  | some p =>
    have : (p.replace k).count k.delimiter + 2 = t.count k.delimiter := count_replace h
    markUpKind k (p.replace k)
  | none => t
termination_by t.count k.delimiter
decreasing_by omega

theorem markUpKind_of_some {k : Emphasis} {t : Text} {p : Pair} (h : pair? k t = some p) :
    markUpKind k t = markUpKind k (p.replace k) := by
  rw [markUpKind]
  split
  · rename_i q hq
    rw [h] at hq
    cases hq
    rfl
  · rename_i hq
    rw [h] at hq
    cases hq

theorem markUpKind_of_none {k : Emphasis} {t : Text} (h : pair? k t = none) : markUpKind k t = t := by
  rw [markUpKind]
  split
  · rename_i q hq
    rw [h] at hq
    cases hq
  · rfl

/-- The text with every emphasised span marked up. -/
def markUp (t : Text) : Text := all.foldl (fun t k => markUpKind k t) t

end Emphasis
end Inline
end WikiArticle
