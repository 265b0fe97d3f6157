import WikiArticle.Proofs.Text.Occurrence

/-! Written text, cut into the characters outside its tags and the tags. A tag runs from `<` to the next
    `>`; it starts an element, or ends the one that it names. A text in which every tag ends can be cut by
    itself, whatever follows it. -/

namespace WikiArticle
namespace Markup

/-! ### Tokens -/

/-- A piece of written text: a character outside the tags, or a tag. -/
inductive Token where
  /-- A character outside the tags. -/
  | char (c : Char)
  /-- A tag that starts an element, without its brackets. -/
  | start (inside : Text)
  /-- A tag that ends an element of the name. -/
  | stop (name : Text)
  /-- What stands behind a `<` that no `>` follows. -/
  | loose (rest : Text)
  deriving DecidableEq, Repr

namespace Token

/-- The token of the tag that holds `inside` between its brackets. -/
def ofTag : Text → Token
  | '/' :: name => stop name
  | inside => start inside

/-- The text of a token. -/
def text : Token → Text
  | char c => [c]
  | start inside => '<' :: inside ++ ['>']
  | stop name => '<' :: '/' :: name ++ ['>']
  | loose rest => '<' :: rest

/-- Whether a token is a tag that does not end. -/
def isLoose : Token → Bool
  | loose _ => true
  | _ => false

theorem text_ofTag (w : Text) : (ofTag w).text = '<' :: w ++ ['>'] := by
  unfold ofTag
  split <;> rfl

theorem isLoose_ofTag (w : Text) : (ofTag w).isLoose = false := by
  unfold ofTag
  split <;> rfl

end Token

open Token

/-- The tokens of a text, read from outside a tag (`none`) or from inside one, of which `r` is what has been
    read, the nearest character first. -/
def tokensFrom : Option Text → Text → List Token
  | none, [] => []
  | some r, [] => [loose r.reverse]
  | none, c :: t => if c = '<' then tokensFrom (some []) t else char c :: tokensFrom none t
  | some r, c :: t => if c = '>' then ofTag r.reverse :: tokensFrom none t else tokensFrom (some (c :: r)) t

/-- The tokens that a text is cut into. -/
def tokens (t : Text) : List Token := tokensFrom none t

/-- Every tag of a text ends in it. -/
def Whole (t : Text) : Prop := ∀ k ∈ tokens t, k.isLoose = false

instance (t : Text) : Decidable (Whole t) := inferInstanceAs (Decidable (∀ k ∈ tokens t, k.isLoose = false))

@[simp] theorem tokens_nil : tokens [] = [] := rfl

theorem tokens_cons {c : Char} (h : c ≠ '<') (t : Text) : tokens (c :: t) = char c :: tokens t := by
  simp [tokens, tokensFrom, h]

theorem tokensFrom_some_append {w : Text} (h : '>' ∉ w) (r t : Text) :
    tokensFrom (some r) (w ++ '>' :: t) = ofTag (r.reverse ++ w) :: tokens t := by
  induction w generalizing r with
  | nil => simp [tokensFrom, tokens]
  | cons c w ih =>
    simp only [List.mem_cons, not_or] at h
    simp [tokensFrom, Ne.symm h.1, ih h.2]

theorem tokens_tag {w : Text} (h : '>' ∉ w) (t : Text) : tokens ('<' :: w ++ '>' :: t) = ofTag w :: tokens t := by
  have := tokensFrom_some_append h [] t
  simpa [tokens, tokensFrom] using this

theorem tokensFrom_some_loose {w : Text} (h : '>' ∉ w) (r : Text) :
    tokensFrom (some r) w = [loose (r.reverse ++ w)] := by
  induction w generalizing r with
  | nil => simp [tokensFrom]
  | cons c w ih =>
    simp only [List.mem_cons, not_or] at h
    simp [tokensFrom, Ne.symm h.1, ih h.2]

theorem tokensFrom_append (s : Option Text) {t : Text} (h : ∀ k ∈ tokensFrom s t, k.isLoose = false) (u : Text) :
    tokensFrom s (t ++ u) = tokensFrom s t ++ tokens u := by
  induction t generalizing s with
  | nil =>
    cases s with
    | none => rfl
    | some r => simp [tokensFrom, isLoose] at h
  | cons c t ih =>
    cases s with
    | none =>
      simp only [List.cons_append, tokensFrom] at h ⊢
      split at h
      · rename_i hc
        rw [if_pos hc, if_pos hc]
        exact ih _ h
      · rename_i hc
        rw [if_neg hc, if_neg hc, ih _ fun k hk => h k (List.mem_cons_of_mem _ hk), List.cons_append]
    | some r =>
      simp only [List.cons_append, tokensFrom] at h ⊢
      split at h
      · rename_i hc
        rw [if_pos hc, if_pos hc, ih _ fun k hk => h k (List.mem_cons_of_mem _ hk), List.cons_append]
      · rename_i hc
        rw [if_neg hc, if_neg hc]
        exact ih _ h

/-! ### Whole texts -/

theorem tokens_append {t : Text} (h : Whole t) (u : Text) : tokens (t ++ u) = tokens t ++ tokens u :=
  tokensFrom_append none h u

theorem whole_nil : Whole [] := by simp [Whole]

theorem Whole.append {t u : Text} (ht : Whole t) (hu : Whole u) : Whole (t ++ u) := by
  intro k hk
  rw [tokens_append ht] at hk
  rcases List.mem_append.mp hk with hk | hk
  · exact ht k hk
  · exact hu k hk

theorem whole_of_append {t u : Text} (ht : Whole t) (h : Whole (t ++ u)) : Whole u := fun k hk => by
  refine h k ?_
  rw [tokens_append ht]
  exact List.mem_append_right _ hk

theorem tokens_chars {t : Text} (h : '<' ∉ t) : tokens t = t.map char := by
  induction t with
  | nil => rfl
  | cons c t ih =>
    simp only [List.mem_cons, not_or] at h
    rw [tokens_cons (Ne.symm h.1), ih h.2, List.map_cons]

theorem whole_chars {t : Text} (h : '<' ∉ t) : Whole t := by
  intro k hk
  rw [tokens_chars h] at hk
  obtain ⟨c, -, rfl⟩ := List.mem_map.mp hk
  rfl

theorem tokens_tag_nil {w : Text} (h : '>' ∉ w) : tokens ('<' :: w ++ ['>']) = [ofTag w] := tokens_tag h []

theorem whole_tag {w : Text} (h : '>' ∉ w) : Whole ('<' :: w ++ ['>']) := by
  intro k hk
  rw [tokens_tag_nil h] at hk
  obtain rfl := List.mem_singleton.mp hk
  exact isLoose_ofTag w

/-- A tag is not whole without its end. -/
theorem not_whole_of_tag {w u v : Text} {c : Char} (hw : '>' ∉ w) (h : w ++ ['>'] = u ++ c :: v) : ¬Whole ('<' :: u) := by
  intro hwhole
  -- The end of the tag stands behind `u`, wherever `w` stops.
  have hgt : '>' ∉ u := by
    rcases Text.split_append h with ⟨x, rfl, -⟩ | ⟨x, rfl, hx⟩
    · exact fun hmem => hw (List.mem_append_left _ hmem)
    · cases x with
      | nil => rwa [List.append_nil]
      | cons b x =>
        have := congrArg List.length hx
        simp at this
  have hloose : tokens ('<' :: u) = [loose u] := by
    simpa [tokens, tokensFrom] using tokensFrom_some_loose hgt []
  have := hwhole (loose u) (by rw [hloose]; exact List.mem_singleton_self _)
  cases this

/-- The text is cut into the tokens, and every tag ends in it. -/
def Cut (t : Text) (ts : List Token) : Prop := Whole t ∧ tokens t = ts

instance (t : Text) (ts : List Token) : Decidable (Cut t ts) := inferInstanceAs (Decidable (Whole t ∧ tokens t = ts))

theorem Cut.append {t u : Text} {ts us : List Token} (ht : Cut t ts) (hu : Cut u us) : Cut (t ++ u) (ts ++ us) :=
  ⟨ht.1.append hu.1, by rw [tokens_append ht.1, ht.2, hu.2]⟩

theorem cut_chars {t : Text} (h : '<' ∉ t) : Cut t (t.map char) := ⟨whole_chars h, tokens_chars h⟩

theorem cut_tag {w : Text} (h : '>' ∉ w) : Cut ('<' :: w ++ ['>']) [ofTag w] := ⟨whole_tag h, tokens_tag_nil h⟩

end Markup
end WikiArticle
