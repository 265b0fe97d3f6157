import WikiArticle.Text.Lines

/-! Lines that are each ended by a line feed are read back as they were. A text that is put before another has
    the same lines there as by itself, if its last line is ended. -/

namespace WikiArticle
namespace Text

theorem pieces_of_notMem {sep : Char} {t : Text} (h : sep ∉ t) : pieces sep t = [t] := by
  induction t with
  | nil => rfl
  | cons c t ih =>
    simp only [List.mem_cons, not_or] at h
    rw [pieces_cons, if_neg (Ne.symm h.1), ih h.2, List.headD_cons, List.tail_cons]

theorem pieces_append (sep : Char) (t u : Text) : pieces sep (t ++ sep :: u) = pieces sep t ++ pieces sep u := by
  induction t with
  | nil => rw [List.nil_append, pieces_cons, if_pos rfl, pieces_nil, List.singleton_append]
  | cons c t ih =>
    obtain ⟨q, qs, hq⟩ := List.exists_cons_of_ne_nil (pieces_ne_nil sep t)
    rw [List.cons_append, pieces_cons, pieces_cons, ih, hq]
    split <;> rfl

/-- Characters other than line feeds join the last piece of the text that they stand behind. -/
theorem exists_pieces_append (t : Text) {u : Text} (h : '\n' ∉ u) :
    ∃ before last, pieces '\n' t = before ++ [last] ∧ pieces '\n' (t ++ u) = before ++ [last ++ u] := by
  induction t with
  | nil => exact ⟨[], [], rfl, pieces_of_notMem h⟩
  | cons c t ih =>
    obtain ⟨before, last, ht, hu⟩ := ih
    rw [List.cons_append, pieces_cons, pieces_cons, ht, hu]
    split
    · exact ⟨[] :: before, last, rfl, rfl⟩
    · cases before with
      | nil => exact ⟨[], c :: last, rfl, rfl⟩
      | cons p before => exact ⟨(c :: p) :: before, last, rfl, rfl⟩

theorem rawLines_append (t u : Text) : rawLines (t ++ '\n' :: u) = pieces '\n' t ++ rawLines u := by
  have hlast : (pieces '\n' t ++ pieces '\n' u).getLast? = (pieces '\n' u).getLast? := by
    rw [List.getLast?_append, List.getLast?_eq_some_getLast (pieces_ne_nil '\n' u), Option.some_or]
  simp only [rawLines, pieces_append, hlast]
  split
  · rw [List.dropLast_append_of_ne_nil (pieces_ne_nil '\n' u)]
  · rfl

/-- Texts that a line feed ends each are read back in the pieces that their own line feeds leave. -/
theorem rawLines_flatMap (ts : List Text) :
    rawLines (ts.flatMap fun t => t ++ ['\n']) = ts.flatMap (pieces '\n') := by
  induction ts with
  | nil => rfl
  | cons t ts ih =>
    rw [List.flatMap_cons, List.append_assoc, List.singleton_append, rawLines_append, ih, List.flatMap_cons]

/-! ### Texts one after the other -/

/-- The text with a line feed behind its last line, if it has none there. -/
def ended (t : Text) : Text := if t = [] ∨ t.getLast? = some '\n' then t else t ++ ['\n']

/-- The texts one after the other, the last line of each one ended. -/
def joined (ts : List Text) : Text := ts.flatMap ended

/-- The last piece of a text that does not end with a line feed is not empty. -/
theorem getLast?_pieces_concat {c : Char} (hc : c ≠ '\n') (t : Text) :
    (pieces '\n' (t ++ [c])).getLast? ≠ some [] := by
  induction t with
  | nil => simp [pieces_cons, hc]
  | cons a t ih =>
    obtain ⟨q, qs, hq⟩ := List.exists_cons_of_ne_nil (pieces_ne_nil '\n' (t ++ [c]))
    rw [List.cons_append, pieces_cons]
    rw [hq] at ih ⊢
    split
    · rwa [List.getLast?_cons_cons]
    · cases qs with
      | nil => simp
      | cons p ps => rwa [List.headD_cons, List.tail_cons, List.getLast?_cons_cons] at *

theorem rawLines_ended_append (t u : Text) : rawLines (ended t ++ u) = rawLines t ++ rawLines u := by
  rcases List.eq_nil_or_concat t with rfl | ⟨t, c, rfl⟩
  · rfl
  · rw [List.concat_eq_append]
    by_cases hc : c = '\n'
    · subst hc
      have hended : ended (t ++ ['\n']) = t ++ ['\n'] := if_pos (Or.inr List.getLast?_concat)
      have hnil : rawLines [] = [] := rfl
      rw [hended, rawLines_append, hnil, List.append_nil, List.append_assoc, List.singleton_append, rawLines_append]
    · have hended : ended (t ++ [c]) = t ++ [c] ++ ['\n'] := by simp [ended, hc]
      have hraw : rawLines (t ++ [c]) = pieces '\n' (t ++ [c]) := if_neg (getLast?_pieces_concat hc t)
      rw [hended, hraw, List.append_assoc, List.singleton_append, rawLines_append]

theorem lines_joined (ts : List Text) : lines (joined ts) = ts.flatMap lines := by
  induction ts with
  | nil => rfl
  | cons t ts ih =>
    have hcons : lines (ended t ++ joined ts) = lines t ++ lines (joined ts) := by
      rw [lines, rawLines_ended_append, List.map_append]
      rfl
    rw [List.flatMap_cons, ← ih]
    exact hcons

end Text
end WikiArticle
