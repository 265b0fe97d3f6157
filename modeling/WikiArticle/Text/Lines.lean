import WikiArticle.Text.Blank

/-! Splitting a source into lines. A line feed ends a line, whatever follows the last one is a line of its
    own unless it is empty, and the white space before the end of a line (a carriage return included)
    does not belong to it. -/

namespace WikiArticle
namespace Text

/-- The pieces between the occurrences of `sep`: one more than there are occurrences. -/
def pieces (sep : Char) (t : Text) : List Text :=
  t.foldr (fun c ps => if c = sep then [] :: ps else (c :: ps.headD []) :: ps.tail) [[]]

/-- The pieces that a line feed ends, and the last one unless it is empty. -/
def rawLines (t : Text) : List Text :=
  let ps := pieces '\n' t
  if ps.getLast? = some [] then ps.dropLast else ps

/-- The lines of a source, without the white space each ends with. -/
def lines (t : Text) : List Text := (rawLines t).map trimEnd

@[simp] theorem pieces_nil (sep : Char) : pieces sep [] = [[]] := rfl

theorem pieces_cons (sep c : Char) (t : Text) :
    pieces sep (c :: t) =
      if c = sep then [] :: pieces sep t else (c :: (pieces sep t).headD []) :: (pieces sep t).tail :=
  rfl

theorem pieces_ne_nil (sep : Char) (t : Text) : pieces sep t ≠ [] := by
  cases t with
  | nil => simp
  | cons c t => rw [pieces_cons]; split <;> simp

theorem sep_notMem_of_mem_pieces {sep : Char} {t p : Text} (h : p ∈ pieces sep t) : sep ∉ p := by
  induction t generalizing p with
  | nil => simp_all
  | cons c t ih =>
    rw [pieces_cons] at h
    split at h
    · rcases List.mem_cons.mp h with rfl | h
      · simp
      · exact ih h
    · rename_i hc
      obtain ⟨q, qs, hq⟩ := List.exists_cons_of_ne_nil (pieces_ne_nil sep t)
      simp only [hq, List.headD_cons, List.tail_cons, List.mem_cons] at h
      rcases h with rfl | h
      · have := ih (p := q) (by simp [hq])
        simp [this, Ne.symm hc]
      · exact ih (by simp [hq, h])

theorem intercalate_pieces (sep : Char) (t : Text) : [sep].intercalate (pieces sep t) = t := by
  induction t with
  | nil => rfl
  | cons c t ih =>
    obtain ⟨q, qs, hq⟩ := List.exists_cons_of_ne_nil (pieces_ne_nil sep t)
    rw [pieces_cons]
    rw [hq] at ih ⊢
    split
    · rename_i hc
      subst hc
      simpa [List.intercalate] using ih
    · cases qs <;> simpa [List.intercalate] using ih

end Text
end WikiArticle
