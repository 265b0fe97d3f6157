import WikiArticle.Text.Blank

/-! The characters that occur in texts, and texts in which a character occurs only at the start, or only at the
    end, of parts of a kind. -/

namespace WikiArticle
namespace Text

-- Deciding the conclusion itself would go through all characters, which are finitely many too.
theorem forall_of_all {p : Char → Prop} [DecidablePred p] {t : Text} (h : t.all (fun c => decide (p c)) = true) :
    ∀ c ∈ t, p c := fun c hc => of_decide_eq_true (List.all_eq_true.mp h c hc)

theorem bne_of_notMem {c : Char} {t : Text} (h : c ∉ t) : ∀ a ∈ t, (a != c) = true := by
  intro a ha
  rw [bne_iff_ne]
  rintro rfl
  exact h ha

/-- Every occurrence of `c` in `t` begins a part of the kind. -/
def Begins (c : Char) (P : Text → Prop) (t : Text) : Prop :=
  ∀ u v, t = u ++ c :: v → ∃ part rest, P part ∧ c :: v = part ++ rest

/-- Every occurrence of `c` in `t` ends a part of the kind. -/
def Ends (c : Char) (P : Text → Prop) (t : Text) : Prop :=
  ∀ u v, t = u ++ c :: v → ∃ before part, P part ∧ u ++ [c] = before ++ part

variable {c : Char} {P : Text → Prop} {t u : Text}

theorem split_append {x v : Text} (h : t ++ u = x ++ c :: v) :
    (∃ w, t = x ++ c :: w ∧ v = w ++ u) ∨ ∃ w, x = t ++ w ∧ u = w ++ c :: v := by
  rcases List.append_eq_append_iff.mp h with ⟨w, hx, hu⟩ | ⟨w, ht, hv⟩
  · exact Or.inr ⟨w, hx, hu⟩
  · cases w with
    | nil => exact Or.inr ⟨[], by simpa using ht.symm, hv.symm⟩
    | cons a w =>
      simp only [List.cons_append, List.cons.injEq] at hv
      obtain ⟨rfl, rfl⟩ := hv
      exact Or.inl ⟨w, ht, rfl⟩

theorem begins_of_notMem (h : c ∉ t) : Begins c P t := by
  rintro u v rfl
  exact absurd (by simp) h

theorem ends_of_notMem (h : c ∉ t) : Ends c P t := by
  rintro u v rfl
  exact absurd (by simp) h

theorem Begins.append (ht : Begins c P t) (hu : Begins c P u) : Begins c P (t ++ u) := by
  intro x v h
  rcases split_append h with ⟨w, hw, rfl⟩ | ⟨w, -, hw⟩
  · obtain ⟨part, rest, hpart, hsplit⟩ := ht x w hw
    exact ⟨part, rest ++ u, hpart, by rw [← List.append_assoc, ← hsplit, List.cons_append]⟩
  · exact hu w v hw

theorem Ends.append (ht : Ends c P t) (hu : Ends c P u) : Ends c P (t ++ u) := by
  intro x v h
  rcases split_append h with ⟨w, hw, -⟩ | ⟨w, rfl, hw⟩
  · exact ht x w hw
  · obtain ⟨before, part, hpart, hsplit⟩ := hu w v hw
    exact ⟨t ++ before, part, hpart, by rw [List.append_assoc, hsplit, List.append_assoc]⟩

theorem begins_cons (h : P (c :: t)) (ht : c ∉ t) : Begins c P (c :: t) := by
  intro u v hsplit
  cases u with
  | nil => exact ⟨c :: t, [], h, hsplit.symm.trans (List.append_nil _).symm⟩
  | cons a u =>
    simp only [List.cons_append, List.cons.injEq] at hsplit
    exact absurd (by rw [hsplit.2]; simp) ht

theorem ends_concat (h : P (t ++ [c])) (ht : c ∉ t) : Ends c P (t ++ [c]) := by
  intro u v hsplit
  rcases split_append hsplit with ⟨w, hw, -⟩ | ⟨w, hw, hc⟩
  · exact absurd (by rw [hw]; simp) ht
  · cases w with
    | nil => exact ⟨[], t ++ [c], h, by rw [hw, List.append_nil, List.nil_append]⟩
    | cons a w =>
      have := congrArg List.length hc
      simp at this

end Text
end WikiArticle
