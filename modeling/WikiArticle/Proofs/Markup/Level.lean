import WikiArticle.Proofs.Markup.Nesting

/-! The level of a place among some tokens: how many more elements are started before it than ended. Between
    two places at which elements can be wrapped the level never falls below that of the first, and comes
    back to it at the second. Two such stretches never cross once their ends are tags, so wrapping one
    keeps the other, and makes no new one. -/

namespace WikiArticle
namespace Markup
open Token

/-! ### Levels -/

/-- How many more elements are open behind a token than before it. A tag that is never closed counts like
    one that is. -/
def Token.rise : Token → Int
  | .char _ => 0
  | .start _ => 1
  | .stop _ => -1
  | .loose rest => if rest.head? = some '/' then -1 else 1

/-- How many more elements the first `i` tokens start than they end. -/
def level : List Token → Nat → Int
  | k :: ts, i + 1 => k.rise + level ts i
  | _, _ => 0

@[simp]
theorem level_zero (ts : List Token) : level ts 0 = 0 := by cases ts <;> rfl

@[simp]
theorem level_nil (i : Nat) : level [] i = 0 := by cases i <;> rfl

@[simp]
theorem level_cons (k : Token) (ts : List Token) (i : Nat) : level (k :: ts) (i + 1) = k.rise + level ts i := rfl

theorem level_succ (ts : List Token) (i : Nat) : level ts (i + 1) = level ts i + (ts[i]?.map Token.rise).getD 0 := by
  induction ts generalizing i with
  | nil => simp
  | cons k ts ih =>
    cases i with
    | zero => simp
    | succ i =>
      rw [level_cons, level_cons, ih, List.getElem?_cons_succ]
      omega

theorem level_append (ts us : List Token) (i : Nat) :
    level (ts ++ us) (ts.length + i) = level ts ts.length + level us i := by
  induction ts with
  | nil => simp
  | cons k ts ih =>
    rw [List.cons_append, List.length_cons, Nat.add_right_comm, level_cons, level_cons, ih]
    omega

theorem level_append_left {ts : List Token} {i : Nat} (h : i ≤ ts.length) (us : List Token) :
    level (ts ++ us) i = level ts i := by
  induction ts generalizing i with
  | nil => simp [Nat.le_zero.mp h]
  | cons k ts ih =>
    cases i with
    | zero => simp
    | succ i => rw [List.cons_append, level_cons, level_cons, ih (Nat.le_of_succ_le_succ h)]

theorem level_set {ts : List Token} {i : Nat} {old : Token} (h : ts[i]? = some old) (k : Token) (m : Nat) :
    level (ts.set i k) m = level ts m + if i < m then k.rise - old.rise else 0 := by
  induction m with
  | zero => simp
  | succ m ih =>
    rw [level_succ, level_succ, ih]
    have hi : i < ts.length := (List.getElem?_eq_some_iff.mp h).1
    rcases Nat.lt_trichotomy i m with him | rfl | him
    · rw [List.getElem?_set_ne (by omega), if_pos him, if_pos (by omega)]
      omega
    · rw [List.getElem?_set_self hi, h, if_neg (by omega), if_pos (by omega)]
      simp only [Option.map_some, Option.getD_some]
      omega
    · rw [List.getElem?_set_ne (by omega), if_neg (by omega), if_neg (by omega)]
      omega

/-- From the place `i` to the place `j` no element is ended that was open before, and none is left open. -/
structure Balanced (ts : List Token) (i j : Nat) : Prop where
  /-- The level comes back. -/
  back : level ts j = level ts i
  /-- It never falls below on the way. -/
  above : ∀ m, i ≤ m → m ≤ j → level ts i ≤ level ts m

theorem level_of_depthAfter {ts : List Token} {n r : Nat} (h : depthAfter ts n = some r) :
    level ts ts.length = r - n ∧ ∀ m ≤ ts.length, 0 ≤ n + level ts m := by
  induction ts generalizing n with
  | nil =>
    cases h
    exact ⟨by simp, fun m _ => by simp⟩
  | cons k ts ih =>
    obtain ⟨d, hd, h⟩ := Option.bind_eq_some_iff.mp h
    obtain ⟨hback, habove⟩ := ih h
    have hrise : (d : Int) = n + k.rise := by
      cases k with
      | char c => cases hd; simp [Token.rise]
      | start inside => cases hd; simp [Token.rise]
      | stop name =>
        cases n with
        | zero => cases hd
        | succ n =>
          cases hd
          simp only [Token.rise]
          omega
      | loose rest => cases hd
    refine ⟨by rw [List.length_cons, level_cons]; omega, fun m hm => ?_⟩
    cases m with
    | zero => simp
    | succ m =>
      have := habove m (by simpa using hm)
      rw [level_cons]
      omega

theorem balanced_of_depthAfter {ts : List Token} (h : depthAfter ts 0 = some 0) (before after : List Token) :
    Balanced (before ++ (ts ++ after)) before.length (before.length + ts.length) := by
  obtain ⟨hback, habove⟩ := level_of_depthAfter h
  have hlevel (m : Nat) (hm : m ≤ ts.length) :
      level (before ++ (ts ++ after)) (before.length + m) = level before before.length + level ts m := by
    rw [level_append, level_append_left hm]
  have hbegin := hlevel 0 (Nat.zero_le _)
  rw [Nat.add_zero, level_zero] at hbegin
  constructor
  · rw [hlevel _ (Nat.le_refl _), hbegin, hback]
    simp
  · intro m hm hm'
    obtain ⟨n, rfl⟩ := Nat.exists_eq_add_of_le hm
    have hn : n ≤ ts.length := by omega
    have := habove n hn
    rw [hlevel n hn, hbegin]
    omega

/-! ### Wrapping -/

/-- The tokens with the two at `i` and `j` replaced by the tags of an element. -/
def wrap (inside : Text) (i j : Nat) (ts : List Token) : List Token :=
  (ts.set i (start inside)).set j (stop (elementName inside))

theorem set_set_append {α : Type} (as bs cs : List α) (a b c d : α) :
    ((as ++ a :: (bs ++ c :: cs)).set as.length b).set (as.length + 1 + bs.length) d = as ++ b :: (bs ++ d :: cs) := by
  have hi : (as ++ a :: (bs ++ c :: cs)).set as.length b = as ++ b :: (bs ++ c :: cs) := by
    rw [List.set_append_right _ _ (Nat.le_refl _), Nat.sub_self, List.set_cons_zero]
  have hj : as.length + 1 + bs.length - as.length = bs.length + 1 := by omega
  rw [hi, List.set_append_right _ _ (by omega), hj, List.set_cons_succ, List.set_append_right _ _ (Nat.le_refl _),
    Nat.sub_self, List.set_cons_zero]

theorem wrap_append (inside : Text) (as bs cs : List Token) (a c : Token) :
    wrap inside as.length (as.length + 1 + bs.length) (as ++ a :: (bs ++ c :: cs)) =
      as ++ start inside :: (bs ++ stop (elementName inside) :: cs) := set_set_append as bs cs a _ c _

section Wrapped
variable {ts : List Token} {inside : Text} {i j : Nat} {a b : Char}

theorem getElem?_wrap_opening (hij : i < j) (hi : ts[i]? = some (char a)) :
    (wrap inside i j ts)[i]? = some (start inside) := by
  rw [wrap, List.getElem?_set_ne (by omega), List.getElem?_set_self (List.getElem?_eq_some_iff.mp hi).1]

theorem getElem?_wrap_closing (hj : ts[j]? = some (char b)) :
    (wrap inside i j ts)[j]? = some (stop (elementName inside)) := by
  have := (List.getElem?_eq_some_iff.mp hj).1
  rw [wrap, List.getElem?_set_self (by rwa [List.length_set])]

theorem getElem?_wrap_of_ne {m : Nat} (hi : m ≠ i) (hj : m ≠ j) : (wrap inside i j ts)[m]? = ts[m]? := by
  rw [wrap, List.getElem?_set_ne (Ne.symm hj), List.getElem?_set_ne (Ne.symm hi)]

theorem level_wrap (hij : i < j) (hi : ts[i]? = some (char a)) (hj : ts[j]? = some (char b)) (m : Nat) :
    level (wrap inside i j ts) m = level ts m + if i < m ∧ m ≤ j then 1 else 0 := by
  have hj' : (ts.set i (start inside))[j]? = some (char b) := by rw [List.getElem?_set_ne (by omega), hj]
  rw [wrap, level_set hj', level_set hi]
  simp only [Token.rise]
  split <;> split <;> split <;> omega

/-- A stretch that ends before a start tag in it is matched cannot be balanced. -/
theorem Balanced.not_crossing {o c : Nat} {tag : Text} (h : Balanced ts i j) (hoc : Balanced ts (o + 1) c)
    (ho : ts[o]? = some (start tag)) (hio : i ≤ o) (hoj : o < j) (hjc : j ≤ c) : False := by
  have hstart := level_succ ts o
  rw [ho] at hstart
  have h₁ := h.above o hio (by omega)
  have h₂ := hoc.above j (by omega) hjc
  have h₃ := h.back
  simp only [Option.map_some, Option.getD_some, Token.rise] at hstart
  omega

/-- A stretch that begins behind a start tag and goes on behind the end tag that matches it cannot be
    balanced. -/
theorem Balanced.not_leaving {o c : Nat} {name : Text} (h : Balanced ts i j) (hoc : Balanced ts (o + 1) c)
    (hc : ts[c]? = some (stop name)) (hoi : o < i) (hic : i ≤ c) (hcj : c < j) : False := by
  have hstop := level_succ ts c
  rw [hc] at hstop
  have h₁ := h.above (c + 1) (by omega) (by omega)
  have h₂ := hoc.above i (by omega) hic
  have h₃ := hoc.back
  simp only [Option.map_some, Option.getD_some, Token.rise] at hstop
  omega

variable (inside) in
/-- The level at a place of the wrapped tokens, by where the place lies. -/
theorem level_wrap_cases (hij : i < j) (hi : ts[i]? = some (char a)) (hj : ts[j]? = some (char b)) (m : Nat) :
    (i < m ∧ m ≤ j ∧ level (wrap inside i j ts) m = level ts m + 1) ∨
    ((m ≤ i ∨ j < m) ∧ level (wrap inside i j ts) m = level ts m) := by
  rw [level_wrap hij hi hj]
  by_cases hm : i < m ∧ m ≤ j
  · rw [if_pos hm]
    exact Or.inl ⟨hm.1, hm.2, rfl⟩
  · rw [if_neg hm]
    exact Or.inr ⟨by omega, by omega⟩

theorem Balanced.wrapped (h : Balanced ts (i + 1) j) (hij : i < j) (hi : ts[i]? = some (char a))
    (hj : ts[j]? = some (char b)) : Balanced (wrap inside i j ts) (i + 1) j := by
  have hcases := level_wrap_cases inside hij hi hj
  have hback := h.back
  constructor
  · rcases hcases (i + 1), hcases j with ⟨h₁ | h₁, h₂ | h₂⟩ <;> omega
  · intro m hm hm'
    have habove := h.above m hm hm'
    rcases hcases (i + 1), hcases m with ⟨h₁ | h₁, h₂ | h₂⟩ <;> omega

/-- Wrapping a balanced stretch keeps what is balanced between two tags balanced. -/
theorem Balanced.wrap {o c : Nat} {tag name : Text} (h : Balanced ts (i + 1) j) (hij : i < j)
    (hi : ts[i]? = some (char a)) (hj : ts[j]? = some (char b)) (hoc : Balanced ts (o + 1) c) (hlt : o < c)
    (ho : ts[o]? = some (start tag)) (hc : ts[c]? = some (stop name)) :
    Balanced (Markup.wrap inside i j ts) (o + 1) c := by
  have hio : i ≠ o := fun e => by rw [e, ho] at hi; cases hi
  have hjo : j ≠ o := fun e => by rw [e, ho] at hj; cases hj
  have hic : i ≠ c := fun e => by rw [e, hc] at hi; cases hi
  have hjc : j ≠ c := fun e => by rw [e, hc] at hj; cases hj
  have hcross : ¬(i + 1 ≤ o ∧ o < j ∧ j ≤ c) := fun ⟨h₁, h₂, h₃⟩ => h.not_crossing hoc ho h₁ h₂ h₃
  have hleave : ¬(o < i + 1 ∧ i + 1 ≤ c ∧ c < j) := fun ⟨h₁, h₂, h₃⟩ => h.not_leaving hoc hc h₁ h₂ h₃
  have hcases := level_wrap_cases inside hij hi hj
  have hback := hoc.back
  constructor
  · rcases hcases (o + 1), hcases c with ⟨h₁ | h₁, h₂ | h₂⟩ <;> omega
  · intro m hm hm'
    have habove := hoc.above m hm hm'
    rcases hcases (o + 1), hcases m with ⟨h₁ | h₁, h₂ | h₂⟩ <;> omega

/-- What is balanced between two other places once a balanced stretch is wrapped was balanced before. -/
theorem Balanced.of_wrap {o c : Nat} (h : Balanced ts (i + 1) j) (hij : i < j) (hi : ts[i]? = some (char a))
    (hj : ts[j]? = some (char b)) (hoc : Balanced (Markup.wrap inside i j ts) (o + 1) c) (hlt : o < c) :
    Balanced ts (o + 1) c := by
  have hwrapped : Balanced (Markup.wrap inside i j ts) (i + 1) j := h.wrapped hij hi hj
  have hcross : ¬(o + 1 ≤ i ∧ i < c ∧ c ≤ j) := fun ⟨h₁, h₂, h₃⟩ =>
    hoc.not_crossing hwrapped (getElem?_wrap_opening hij hi) h₁ h₂ h₃
  have hleave : ¬(i < o + 1 ∧ o + 1 ≤ j ∧ j < c) := fun ⟨h₁, h₂, h₃⟩ =>
    hoc.not_leaving hwrapped (getElem?_wrap_closing hj) h₁ h₂ h₃
  have hcases := level_wrap_cases inside hij hi hj
  have hback := hoc.back
  have hchar := level_succ ts i
  rw [hi] at hchar
  simp only [Option.map_some, Option.getD_some, Token.rise] at hchar
  constructor
  · rcases hcases (o + 1), hcases c with ⟨h₁ | h₁, h₂ | h₂⟩ <;> omega
  · intro m hm hm'
    have habove := hoc.above m hm hm'
    rcases hcases (o + 1), hcases m with ⟨h₁ | h₁, h₂ | h₂⟩ <;> try omega
    -- Only `m` lies in the wrapped stretch, which begins no lower than the stretch around it.
    have hout := hoc.above i (by omega) (by omega)
    have hin := h.above m (by omega) (by omega)
    rcases hcases i with h₃ | h₃ <;> omega

end Wrapped

end Markup
end WikiArticle
