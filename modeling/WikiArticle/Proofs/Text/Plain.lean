import Mathlib.Data.Char
import WikiArticle.Proofs.Text.Occurs
import WikiArticle.Text.Pattern.Spelling

/-! Patterns without signs. Every character of such a pattern stands for itself, so the pattern occurs in the texts
    that it is a stretch of. -/

namespace WikiArticle
namespace Pattern

/-! ### What plain text takes -/

theorem contains_single {c d : Char} : (CharSet.single c.toNat).contains d = true ↔ d = c := by
  have hchar : d = c ↔ d.toNat = c.toNat := ⟨congrArg _, fun h => Char.ext (UInt32.toNat_inj.mp h)⟩
  rw [hchar]
  simp only [CharSet.contains, CharSet.has, CharSet.single, CharSet.range, CharSet.hasFrom]
  split
  · simp only [Bool.false_eq_true, false_iff]
    omega
  · split
    · simp only [Bool.not_false, true_iff]
      omega
    · simp only [Bool.not_false, Bool.not_true, Bool.false_eq_true, false_iff]
      omega

/-- The pattern of one character. -/
def literal (c : Char) : Pattern := .one (.single c.toNat)

theorem takes_literal {t : Text} {c : Char} {i j : Nat} : (literal c).Takes t i j ↔ j = i + 1 ∧ t[i]? = some c := by
  simp [literal, Takes, contains_single]

/-- The pattern of a text whose characters stand for themselves. -/
def literals : Text → Pattern
  | [] => .empty
  | [c] => literal c
  | c :: d :: w => .seq (literal c) (literals (d :: w))

theorem cons_prefix_drop {t w : Text} {c : Char} {i : Nat} :
    c :: w <+: t.drop i ↔ t[i]? = some c ∧ w <+: t.drop (i + 1) := by
  by_cases hi : i < t.length
  · rw [List.drop_eq_getElem_cons hi, List.cons_prefix_cons, List.getElem?_eq_getElem hi, Option.some_inj, eq_comm]
  · have hnone : t[i]? = none := List.getElem?_eq_none (Nat.not_lt.mp hi)
    rw [List.drop_eq_nil_of_le (Nat.not_lt.mp hi), hnone]
    simp

theorem takes_literals {t w : Text} {i j : Nat} (hi : i ≤ t.length) :
    (literals w).Takes t i j ↔ j = i + w.length ∧ w <+: t.drop i := by
  induction w using literals.induct generalizing i with
  | case1 => simp [literals, Takes, hi, eq_comm]
  | case2 c => simp [literals, takes_literal, cons_prefix_drop]
  | case3 c d w ih =>
    rw [literals, Takes, cons_prefix_drop]
    simp only [takes_literal]
    constructor
    · rintro ⟨k, ⟨rfl, hc⟩, hrest⟩
      obtain ⟨rfl, hprefix⟩ := (ih (List.getElem?_eq_some_iff.mp hc).1).mp hrest
      exact ⟨by simp only [List.length_cons]; omega, hc, hprefix⟩
    · rintro ⟨rfl, hc, hprefix⟩
      refine ⟨i + 1, ⟨rfl, hc⟩, (ih (List.getElem?_eq_some_iff.mp hc).1).mpr ⟨?_, hprefix⟩⟩
      simp only [List.length_cons]
      omega

/-- The characters behind each other occur in the texts that they are a stretch of. -/
theorem occursIn_literals {t w : Text} : (literals w).occursIn t = true ↔ w <:+: t := by
  rw [occursIn_iff]
  constructor
  · rintro ⟨i, j, hi, h⟩
    exact ((takes_literals hi).mp h).2.isInfix.trans (List.drop_suffix i t).isInfix
  · rintro ⟨front, back, rfl⟩
    have hi : front.length ≤ (front ++ w ++ back).length := by simp
    refine ⟨front.length, _, hi, (takes_literals hi).mpr ⟨rfl, ?_⟩⟩
    rw [List.append_assoc, List.drop_left]
    exact List.prefix_append w back

theorem foldr_literals (c : Char) (w : Text) :
    (((c :: w).map literal).dropLast).foldr .seq (((c :: w).map literal).getLastD .empty) = literals (c :: w) := by
  induction w generalizing c with
  | nil => rfl
  | cons d w ih =>
    rw [literals, ← ih d]
    rfl

theorem sequence_literals (w : Text) : sequence (w.map literal) = literals w := by
  have hnonempty (p : Pattern) (hp : p ∈ w.map literal) : (p != .empty) = true := by
    obtain ⟨c, -, rfl⟩ := List.mem_map.mp hp
    rfl
  rw [sequence, List.filter_eq_self.mpr hnonempty]
  cases w with
  | nil => rfl
  | cons c w => exact foldr_literals c w

/-! ### Reading -/

/-- The characters that mean something where a pattern is read. -/
def signs : Text := ['\\', '.', '^', '$', '|', '(', ')', '*', '+', '?', '\x7b', '[']

theorem next_initial (t : Text) : Flags.initial.next t = t := by cases t <;> rfl

theorem member?_plain {c : Char} (hc : c ∉ signs) (rest : Text) :
    member? .initial (c :: rest) = some (.char c false, rest) := by
  have hslash : c ≠ '\\' := fun h => hc (h ▸ List.mem_cons_self)
  unfold member?
  split
  · rename_i h
    exact absurd (List.cons.inj h).1 hslash
  · rename_i h
    obtain ⟨rfl, rfl⟩ := List.cons.inj h
    rfl
  · rename_i h
    cases h

/-- A character that is no sign is read as itself. -/
theorem sign?_plain {c : Char} (hc : c ∉ signs) (rest : Text) :
    sign? .initial (c :: rest) = some (.part (literal c) 0, rest) := by
  unfold sign?
  split
  case h_12 =>
    rw [member?_plain hc]
    rfl
  all_goals
    rename_i h
    exact absurd (by simp [signs, (List.cons.inj h).1]) hc

/-- The part of a pattern that a character is. -/
def literalPart (c : Char) : Part := ⟨literal c, 0, true⟩

theorem readWithin_plain {w : Text} (hw : ∀ c ∈ w, c ∉ signs) {fuel : Nat} (hfuel : w.length ≤ fuel) (names : List Text)
    (done parts : List Part) (outer : List OpenGroup) :
    Draft.readWithin fuel ⟨.initial, names, ⟨done, parts⟩, outer⟩ w =
      some ⟨.initial, names, ⟨done, (w.map literalPart).reverse ++ parts⟩, outer⟩ := by
  induction w generalizing fuel parts with
  | nil =>
    unfold Draft.readWithin
    simp only [next_initial]
    rfl
  | cons c w ih =>
    obtain ⟨fuel, rfl⟩ : ∃ n, fuel = n + 1 := ⟨fuel - 1, by simp only [List.length_cons] at hfuel; omega⟩
    have hrest := ih (fun a ha => hw a (List.mem_cons_of_mem c ha)) (Nat.le_of_succ_le_succ hfuel) (literalPart c :: parts)
    have hsign := sign?_plain (hw c List.mem_cons_self) w
    unfold Draft.readWithin
    simp only [next_initial, hsign]
    rw [List.map_cons, List.reverse_cons, List.append_assoc]
    exact hrest

theorem pattern_whole (w : Text) : (Group.whole ⟨[], (w.map literalPart).reverse⟩).pattern = literals w := by
  have hlength : (w.map literalPart).reverse.length = w.length := by simp
  generalize hparts : (w.map literalPart).reverse = parts at hlength
  match w, parts with
  | [], [] => rfl
  | [c], [part] =>
    cases hparts
    rfl
  | c :: d :: w, a :: b :: parts =>
    change sequence ((a :: b :: parts).reverse.map (·.pattern)) = _
    rw [← hparts, List.reverse_reverse, List.map_map]
    exact sequence_literals (c :: d :: w)

/-- A text without signs is the pattern of its characters, if it is a pattern. -/
theorem ofText?_plain {w : Text} (hw : ∀ c ∈ w, c ∉ signs) {p : Pattern} (h : ofText? w = some p) : p = literals w := by
  have hread := readWithin_plain hw (Nat.le_refl _) [] [] [] []
  rw [List.append_nil] at hread
  obtain ⟨d, hd, hp⟩ := Option.bind_eq_some_iff.mp h
  obtain rfl := Option.some_inj.mp (hd.symm.trans hread)
  dsimp only at hp
  split at hp
  · rw [← Option.some_inj.mp hp, pattern_whole]
  · cases hp

/-- A pattern without signs occurs in a text when the text holds it as it is written. -/
theorem occursIn_plain {w : Text} (hw : ∀ c ∈ w, c ∉ signs) {p : Pattern} (h : ofText? w = some p) {t : Text} :
    p.occursIn t = true ↔ w <:+: t := by
  rw [ofText?_plain hw h, occursIn_literals]

end Pattern
end WikiArticle
