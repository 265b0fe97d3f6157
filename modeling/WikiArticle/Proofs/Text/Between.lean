import Mathlib.Data.List.Infix
import WikiArticle.Text.Blank

/-! The values that stand in a text between a front and the next back, such as those of one attribute. A text is
    read as these values with the characters around them; to blank it is to leave the values out. A text in
    which no front can begin is read as its characters, whatever follows it. -/

namespace WikiArticle
namespace Text

/-! ### The first occurrence -/

/-- What stands before the first `back` of a text, and what stands behind it. -/
def splitAtFirst? (back : Text) : Text → Option (Text × Text)
  | [] => none
  | c :: t =>
    if back <+: c :: t then some ([], (c :: t).drop back.length)
    else (splitAtFirst? back t).map fun (u, v) => (c :: u, v)

theorem length_splitAtFirst? {back t u v : Text} (h : splitAtFirst? back t = some (u, v)) : v.length ≤ t.length := by
  induction t generalizing u with
  | nil => cases h
  | cons c t ih =>
    rw [splitAtFirst?] at h
    split at h
    · cases h
      rw [List.length_drop]
      omega
    · obtain ⟨⟨w, v'⟩, hrest, heq⟩ := Option.map_eq_some_iff.mp h
      cases heq
      exact Nat.le_succ_of_le (ih hrest)

/-- A text that does not hold the second character of `back` goes up to the `back` right behind it. -/
theorem splitAtFirst?_of_notMem {a b : Char} (hab : a ≠ b) {v : Text} (hv : b ∉ v) (w rest : Text) :
    splitAtFirst? (a :: b :: w) (v ++ (a :: b :: w ++ rest)) = some (v, rest) := by
  induction v with
  | nil =>
    have hprefix : a :: b :: w <+: a :: b :: w ++ rest := List.prefix_append _ rest
    have hdrop : (a :: b :: w ++ rest).drop (a :: b :: w).length = rest := List.drop_left
    rw [List.nil_append, List.cons_append, splitAtFirst?, ← List.cons_append, if_pos hprefix, hdrop]
  | cons c v ih =>
    simp only [List.mem_cons, not_or] at hv
    have hprefix : ¬a :: b :: w <+: c :: (v ++ (a :: b :: w ++ rest)) := by
      rw [List.cons_prefix_cons, not_and]
      intro _ hb
      cases v with
      | nil => exact hab (List.cons_prefix_cons.mp hb).1.symm
      | cons d v => exact hv.2 (by rw [(List.cons_prefix_cons.mp hb).1]; exact List.mem_cons_self)
    rw [List.cons_append, splitAtFirst?, if_neg hprefix, ih hv.2, Option.map_some]

/-! ### Values -/

/-- What stands around a value. -/
structure Frame where
  front : Text
  back : Text
  front_ne_nil : front ≠ []

/-- A part of a text that is read for its values. -/
inductive Part where
  /-- A character outside the values and what stands around them. -/
  | char (c : Char)
  /-- A value with what stands around it. -/
  | value (v : Text)
  deriving DecidableEq, Repr

/-- The value that a part is, if it is one. -/
def Part.value? : Part → Option Text
  | char _ => none
  | value v => some v

namespace Frame

/-- The value whose front begins a text, and what stands behind its back. -/
def value? (f : Frame) (t : Text) : Option (Text × Text) :=
  if f.front <+: t then splitAtFirst? f.back (t.drop f.front.length) else none

theorem length_value? {f : Frame} {c : Char} {t v rest : Text} (h : f.value? (c :: t) = some (v, rest)) :
    rest.length ≤ t.length := by
  unfold value? at h
  split at h
  · have hfront := List.length_pos_iff.mpr f.front_ne_nil
    have hrest := length_splitAtFirst? h
    simp only [List.length_drop, List.length_cons] at hrest
    omega
  · cases h

/-- A text as its values and the characters around them. -/
def parts (f : Frame) : Text → List Part
  | [] => []
  | c :: t =>
    match h : f.value? (c :: t) with
    | some (v, rest) =>
      have : rest.length ≤ t.length := length_value? h
      .value v :: parts f rest
    | none => .char c :: parts f t
termination_by t => t.length

/-- The values that stand in a frame, in their order. -/
def values (f : Frame) (t : Text) : List Text := (f.parts t).filterMap Part.value?

/-- What is left of a part when values are left out. -/
def left (f : Frame) : Part → Text
  | .char c => [c]
  | .value _ => f.front ++ f.back

/-- The text without its values. -/
def blanked (f : Frame) (t : Text) : Text := (f.parts t).flatMap f.left

variable {f : Frame} {t u v : Text}

theorem parts_char {c : Char} (h : f.value? (c :: t) = none) : f.parts (c :: t) = .char c :: f.parts t := by
  rw [parts]
  split
  · rename_i hv
    rw [h] at hv
    cases hv
  · rfl

theorem parts_value {rest : Text} (h : f.value? t = some (v, rest)) : f.parts t = .value v :: f.parts rest := by
  cases t with
  | nil =>
    unfold value? at h
    split at h
    · rw [List.drop_nil] at h
      cases h
    · cases h
  | cons c t =>
    rw [parts]
    split
    · rename_i hv
      rw [h] at hv
      cases hv
      rfl
    · rename_i hv
      rw [h] at hv
      cases hv

theorem parts_between {a b : Char} {w : Text} (hback : f.back = a :: b :: w) (hab : a ≠ b) (hv : b ∉ v) (rest : Text) :
    f.parts (f.front ++ v ++ f.back ++ rest) = .value v :: f.parts rest := by
  refine parts_value ?_
  rw [List.append_assoc, List.append_assoc, value?, if_pos (List.prefix_append _ _), List.drop_left, hback]
  exact splitAtFirst?_of_notMem hab hv w rest

/-- A value that does not hold the second character of the back is read as it is, and is left out. -/
theorem read_between {a b : Char} {w : Text} (hback : f.back = a :: b :: w) (hab : a ≠ b) (hv : b ∉ v) (rest : Text) :
    f.values (f.front ++ v ++ f.back ++ rest) = v :: f.values rest ∧
      f.blanked (f.front ++ v ++ f.back ++ rest) = f.front ++ f.back ++ f.blanked rest := by
  rw [values, blanked, parts_between hback hab hv]
  exact ⟨rfl, rfl⟩

/-! ### Texts without a front -/

/-- No front begins in the text, whatever follows it. -/
def Apart (f : Frame) (t : Text) : Prop := ∀ u ∈ t.tails, u ≠ [] → ¬f.front <+: u ∧ ¬u <+: f.front

instance (f : Frame) (t : Text) : Decidable (f.Apart t) :=
  inferInstanceAs (Decidable (∀ u ∈ t.tails, u ≠ [] → ¬f.front <+: u ∧ ¬u <+: f.front))

theorem apart_nil : f.Apart [] := fun u hu hne => absurd (List.suffix_nil.mp ((List.mem_tails u []).mp hu)) hne

theorem Apart.append (ht : f.Apart t) (hu : f.Apart u) : f.Apart (t ++ u) := by
  intro w hw hne
  obtain ⟨x, hx⟩ := (List.mem_tails w _).mp hw
  rcases List.append_eq_append_iff.mp hx with ⟨y, hy, rfl⟩ | ⟨y, -, hy⟩
  · cases y with
    | nil => exact hu u ((List.mem_tails u u).mpr (List.suffix_refl u)) hne
    | cons c y =>
      obtain ⟨hfront, hself⟩ := ht (c :: y) ((List.mem_tails _ _).mpr ⟨x, hy.symm⟩) (List.cons_ne_nil c y)
      refine ⟨fun h => ?_, fun h => hself ((List.prefix_append _ _).trans h)⟩
      exact (List.prefix_or_prefix_of_prefix h (List.prefix_append _ u)).elim hfront hself
  · exact hu w ((List.mem_tails w _).mpr ⟨y, hy.symm⟩) hne

theorem apart_flatMap {α : Type} {l : List α} {g : α → Text} (h : ∀ a ∈ l, f.Apart (g a)) : f.Apart (l.flatMap g) := by
  induction l with
  | nil => exact apart_nil
  | cons a l ih =>
    rw [List.flatMap_cons]
    exact (h a List.mem_cons_self).append (ih fun b hb => h b (List.mem_cons_of_mem _ hb))

theorem apart_of_notMem (h : ∀ c ∈ f.front.head?, c ∉ t) : f.Apart t := by
  obtain ⟨a, w, hfront⟩ := List.exists_cons_of_ne_nil f.front_ne_nil
  intro u hu hne
  obtain ⟨b, y, rfl⟩ := List.exists_cons_of_ne_nil hne
  have hab : a ≠ b := by
    rintro rfl
    exact h a (by rw [hfront]; rfl) (((List.mem_tails _ _).mp hu).subset List.mem_cons_self)
  rw [hfront, List.cons_prefix_cons, List.cons_prefix_cons]
  exact ⟨fun hw => hab hw.1, fun hw => hab hw.1.symm⟩

theorem Apart.tail {c : Char} (h : f.Apart (c :: t)) : f.Apart t := fun u hu =>
  h u ((List.mem_tails _ _).mpr (((List.mem_tails _ _).mp hu).trans (List.suffix_cons c t)))

theorem Apart.value? {c : Char} (h : f.Apart (c :: t)) (u : Text) : f.value? (c :: (t ++ u)) = none := by
  obtain ⟨hfront, hself⟩ := h (c :: t) ((List.mem_tails _ _).mpr (List.suffix_refl _)) (List.cons_ne_nil c t)
  refine if_neg fun hprefix => ?_
  exact (List.prefix_or_prefix_of_prefix hprefix (List.prefix_append _ u)).elim hfront hself

theorem Apart.parts_append (h : f.Apart t) (u : Text) : f.parts (t ++ u) = t.map .char ++ f.parts u := by
  induction t with
  | nil => rfl
  | cons c t ih => rw [List.cons_append, parts_char (h.value? u), ih h.tail, List.map_cons, List.cons_append]

/-- What no front begins in holds no value, and is kept. -/
theorem Apart.read_append (h : f.Apart t) (u : Text) :
    f.values (t ++ u) = f.values u ∧ f.blanked (t ++ u) = t ++ f.blanked u := by
  have hvalues : (t.map Part.char).filterMap Part.value? = [] := List.filterMap_eq_nil_iff.mpr fun p hp => by
    obtain ⟨c, -, rfl⟩ := List.mem_map.mp hp
    rfl
  have hleft : (t.map Part.char).flatMap f.left = t := by
    rw [List.flatMap_map]
    exact List.flatMap_singleton' t
  rw [values, values, blanked, blanked, h.parts_append, List.filterMap_append, List.flatMap_append, hvalues, hleft]
  exact ⟨rfl, rfl⟩

theorem Apart.read (h : f.Apart t) : f.values t = [] ∧ f.blanked t = t := by
  have hnil : f.parts [] = [] := by rw [parts]
  have := h.read_append []
  rw [List.append_nil] at this
  rw [this.1, this.2, values, blanked, hnil]
  exact ⟨rfl, List.append_nil t⟩

end Frame
end Text
end WikiArticle
