import Mathlib.Data.List.Induction
import WikiArticle.Inline.Entity
import WikiArticle.Proofs.Text.Occurrence

/-! Escaped text. Between the entities an escaped text is its source, and the entities hold no character that
    means anything to the marking up: so cutting, searching and trimming an escaped text is escaping what
    cutting, searching and trimming leave of its source. Decoding the entities once gives the source back. -/

namespace WikiArticle
namespace Inline

/-! ### The characters of an escaped text -/

/-- The characters that are written as entities. -/
def reserved : List Char := ['&', '<', '>']

/-- The entities that reserved characters are written as. -/
def entities : List Text := ["&amp;".toList, "&lt;".toList, "&gt;".toList]

/-- The characters that entities are written with. -/
def entityChars : List Char := entities.flatten

theorem entity_of_notMem {c : Char} (h : c ∉ reserved) : entity c = [c] := by
  simp only [reserved, List.mem_cons, List.not_mem_nil, or_false, not_or] at h
  unfold entity
  split <;> simp_all

theorem entity_of_mem {c : Char} (h : c ∈ reserved) : entity c ∈ entities := by
  simp only [reserved, List.mem_cons, List.not_mem_nil, or_false] at h
  rcases h with rfl | rfl | rfl <;> decide

theorem mem_entityChars_of_mem_entity {a c : Char} (hc : c ∈ reserved) (h : a ∈ entity c) : a ∈ entityChars :=
  List.mem_flatten.mpr ⟨_, entity_of_mem hc, h⟩

theorem mem_escape {a : Char} {t : Text} (h : a ∈ escape t) : a ∈ t ∧ a ∉ reserved ∨ a ∈ entityChars := by
  obtain ⟨c, hc, ha⟩ := List.mem_flatMap.mp h
  by_cases hr : c ∈ reserved
  · exact Or.inr (mem_entityChars_of_mem_entity hr ha)
  · rw [entity_of_notMem hr] at ha
    obtain rfl := List.mem_singleton.mp ha
    exact Or.inl ⟨hc, hr⟩

/-- A character that is written as it is occurs only where it is the character itself. -/
theorem entity_split {a c : Char} {u v : Text} (ha : a ∉ entityChars) (h : entity c = u ++ a :: v) :
    c = a ∧ u = [] ∧ v = [] := by
  have hc : c ∉ reserved := fun hc => ha (mem_entityChars_of_mem_entity hc (by rw [h]; simp))
  rw [entity_of_notMem hc] at h
  cases u with
  | nil =>
    obtain ⟨rfl, rfl⟩ := List.cons.inj h
    exact ⟨rfl, rfl, rfl⟩
  | cons b u =>
    have := congrArg List.length h
    simp at this

theorem mem_escape_iff {a : Char} (ha : a ∉ reserved) (he : a ∉ entityChars) {t : Text} : a ∈ escape t ↔ a ∈ t := by
  constructor
  · intro h
    exact ((mem_escape h).resolve_right he).1
  · intro h
    exact List.mem_flatMap.mpr ⟨a, h, by rw [entity_of_notMem ha]; exact List.mem_singleton_self a⟩

theorem lt_notMem_escape (t : Text) : '<' ∉ escape t := fun h => by
  rcases mem_escape h with ⟨-, h⟩ | h
  · exact h (by decide)
  · exact absurd h (by decide)

theorem gt_notMem_escape (t : Text) : '>' ∉ escape t := fun h => by
  rcases mem_escape h with ⟨-, h⟩ | h
  · exact h (by decide)
  · exact absurd h (by decide)

/-- A tag that ends with an escaped value between quotes. -/
theorem gt_notMem_quoted (front : Text) (h : '>' ∉ front) (value : Text) :
    '>' ∉ front ++ escape value ++ ['"'] := by
  have hquote : '>' ∉ ['"'] := by decide
  simp only [List.mem_append, h, gt_notMem_escape, hquote, or_false, not_false_eq_true]

/-! ### Cutting -/

theorem takeWhile_append_cons {p : Char → Bool} {u : Text} (h : ∀ a ∈ u, p a = true) {b : Char} (hb : p b = false)
    (v : Text) : (u ++ b :: v).takeWhile p = u ∧ (u ++ b :: v).dropWhile p = b :: v := by
  rw [List.takeWhile_append_of_pos h, List.dropWhile_append_of_pos h]
  simp [hb]

theorem takeWhile_escape {p : Char → Bool} (hr : ∀ a ∈ reserved, p a = true)
    (he : ∀ a ∈ entityChars, p a = true) (t : Text) : (escape t).takeWhile p = escape (t.takeWhile p) := by
  induction t with
  | nil => rfl
  | cons c t ih =>
    by_cases hc : c ∈ reserved
    · have := fun a ha => he a (mem_entityChars_of_mem_entity hc ha)
      rw [escape_cons, List.takeWhile_append_of_pos this, ih, List.takeWhile_cons_of_pos (hr c hc), escape_cons]
    · rw [escape_cons, entity_of_notMem hc, List.singleton_append]
      by_cases hp : p c = true
      · rw [List.takeWhile_cons_of_pos hp, List.takeWhile_cons_of_pos hp, ih, escape_cons, entity_of_notMem hc,
          List.singleton_append]
      · rw [List.takeWhile_cons_of_neg hp, List.takeWhile_cons_of_neg hp, escape_nil]

theorem dropWhile_escape {p : Char → Bool} (hr : ∀ a ∈ reserved, p a = true)
    (he : ∀ a ∈ entityChars, p a = true) (t : Text) : (escape t).dropWhile p = escape (t.dropWhile p) := by
  have h := List.takeWhile_append_dropWhile (p := p) (l := escape t)
  rw [takeWhile_escape hr he] at h
  have hjoin : escape (t.takeWhile p) ++ (escape t).dropWhile p = escape (t.takeWhile p) ++ escape (t.dropWhile p) := by
    rw [h, ← escape_append, List.takeWhile_append_dropWhile]
  exact List.append_cancel_left hjoin

/-! ### Trimming -/

theorem isBlank_of_mem_reserved {c : Char} (h : c ∈ reserved) : Text.isBlank c = false := by
  simp only [reserved, List.mem_cons, List.not_mem_nil, or_false] at h
  rcases h with rfl | rfl | rfl <;> decide

theorem isBlank_of_mem_entityChars {c : Char} (h : c ∈ entityChars) : Text.isBlank c = false := by
  have all : ∀ c ∈ entityChars, Text.isBlank c = false := Text.forall_of_all (by decide)
  exact all c h

theorem isBlank_of_mem_entity {a c : Char} (hc : Text.isBlank c = false) (ha : a ∈ entity c) :
    Text.isBlank a = false := by
  by_cases hr : c ∈ reserved
  · exact isBlank_of_mem_entityChars (mem_entityChars_of_mem_entity hr ha)
  · rw [entity_of_notMem hr] at ha
    obtain rfl := List.mem_singleton.mp ha
    exact hc

theorem entity_of_isBlank {c : Char} (h : Text.isBlank c = true) : entity c = [c] := by
  refine entity_of_notMem fun hr => ?_
  rw [isBlank_of_mem_reserved hr] at h
  cases h

theorem trimStart_escape (t : Text) : Text.trimStart (escape t) = escape (Text.trimStart t) := by
  induction t with
  | nil => rfl
  | cons c t ih =>
    by_cases hc : Text.isBlank c = true
    · rw [escape_cons, entity_of_isBlank hc]
      simpa [Text.trimStart, hc] using ih
    · obtain ⟨a, w, hw⟩ := List.exists_cons_of_ne_nil (entity_ne_nil c)
      have ha : Text.isBlank a = false := isBlank_of_mem_entity (Bool.eq_false_iff.mpr hc) (by simp [hw])
      have hleft : Text.trimStart (escape (c :: t)) = escape (c :: t) := by
        simp [Text.trimStart, escape_cons, hw, ha]
      rw [hleft]
      simp [Text.trimStart, hc]

theorem trimEnd_concat_of_isBlank (u : Text) {c : Char} (h : Text.isBlank c = true) :
    Text.trimEnd (u ++ [c]) = Text.trimEnd u :=
  Text.trimEnd_append_of_isAllBlank u (by simp [Text.isAllBlank, h])

theorem trimEnd_concat_of_not (u : Text) {c : Char} (h : Text.isBlank c = false) :
    Text.trimEnd (u ++ [c]) = u ++ [c] := by
  simp [Text.trimEnd, h]

theorem trimEnd_escape (t : Text) : Text.trimEnd (escape t) = escape (Text.trimEnd t) := by
  induction t using List.reverseRecOn with
  | nil => rfl
  | append_singleton t c ih =>
    have hsplit : escape (t ++ [c]) = escape t ++ entity c := by simp
    by_cases hc : Text.isBlank c = true
    · rw [hsplit, entity_of_isBlank hc, trimEnd_concat_of_isBlank _ hc, trimEnd_concat_of_isBlank _ hc, ih]
    · have hc := Bool.eq_false_iff.mpr hc
      have hlast : entity c = (entity c).dropLast ++ [(entity c).getLast (entity_ne_nil c)] :=
        (List.dropLast_concat_getLast (entity_ne_nil c)).symm
      have hb := isBlank_of_mem_entity hc (List.getLast_mem (entity_ne_nil c))
      rw [trimEnd_concat_of_not _ hc, hsplit, hlast, ← List.append_assoc, trimEnd_concat_of_not _ hb]

theorem trim_escape (t : Text) : Text.trim (escape t) = escape (Text.trim t) := by
  rw [Text.trim, trimStart_escape, trimEnd_escape, Text.trim]

/-! ### Decoding -/

/-- The text with each entity of XML read once. -/
def decode : Text → Text
  | '&' :: 'a' :: 'm' :: 'p' :: ';' :: t => '&' :: decode t
  | '&' :: 'l' :: 't' :: ';' :: t => '<' :: decode t
  | '&' :: 'g' :: 't' :: ';' :: t => '>' :: decode t
  | '&' :: 'q' :: 'u' :: 'o' :: 't' :: ';' :: t => '"' :: decode t
  | '&' :: 'a' :: 'p' :: 'o' :: 's' :: ';' :: t => '\'' :: decode t
  | c :: t => c :: decode t
  | [] => []

theorem decode_cons {c : Char} (h : c ≠ '&') (t : Text) : decode (c :: t) = c :: decode t := by
  rw [decode.eq_6]
  all_goals
    intros
    simp_all

theorem decode_escape (t : Text) : decode (escape t) = t := by
  induction t with
  | nil => rfl
  | cons c t ih =>
    rw [escape_cons]
    by_cases hr : c ∈ reserved
    · simp only [reserved, List.mem_cons, List.not_mem_nil, or_false] at hr
      rcases hr with rfl | rfl | rfl <;> simp [entity, decode, ih]
    · have hamp : c ≠ '&' := fun e => hr (by rw [e]; decide)
      rw [entity_of_notMem hr, List.singleton_append, decode_cons hamp, ih]

end Inline
end WikiArticle
