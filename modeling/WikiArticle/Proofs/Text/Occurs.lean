import Mathlib.Logic.Function.Iterate
import WikiArticle.Text.Pattern

/-! What a pattern occurs in. A pattern takes the text between two places, which is told along the pattern. The
    search for an occurrence carries all places at once, and it cuts the turns of a repetition short; it finds
    an occurrence exactly when there is one. -/

namespace WikiArticle
namespace Pattern

/-! ### Turns -/

/-- A number of turns of a relation lead from one place to another. -/
def Turns (r : Nat → Nat → Prop) : Nat → Nat → Nat → Prop
  | 0, i, j => i = j
  | n + 1, i, j => ∃ k, r i k ∧ Turns r n k j

/-- A relation leads from no place backwards, and to no other place behind the last one. -/
def Ahead (last : Nat) (r : Nat → Nat → Prop) : Prop := ∀ i j, r i j → i ≤ j ∧ (i = j ∨ j ≤ last)

theorem Ahead.turns {last : Nat} {r : Nat → Nat → Prop} (hr : Ahead last r) (n : Nat) : Ahead last (Turns r n) := by
  induction n with
  | zero => exact fun i j h => ⟨Nat.le_of_eq h, Or.inl h⟩
  | succ n ih =>
    rintro i j ⟨k, hik, hkj⟩
    have := hr i k hik
    have := ih k j hkj
    omega

/-- With more turns than there are places on the way, one of them stays where it is. It can be left out, and it can
    be taken twice. -/
theorem Turns.stay {last : Nat} {r : Nat → Nat → Prop} (hr : Ahead last r) {n i j : Nat} (h : Turns r n i j)
    (hn : j - i < n) : Turns r (n - 1) i j ∧ Turns r (n + 1) i j := by
  induction n generalizing i with
  | zero => exact absurd hn (Nat.not_lt_zero _)
  | succ n ih =>
    obtain ⟨k, hik, hkj⟩ := h
    by_cases hk : i = k
    · subst hk
      exact ⟨hkj, i, hik, i, hik, hkj⟩
    · have := hr i k hik
      have := hr.turns n k j hkj
      obtain ⟨hless, hmore⟩ := ih hkj (by omega)
      obtain ⟨m, rfl⟩ : ∃ m, n = m + 1 := ⟨n - 1, by omega⟩
      exact ⟨⟨k, hik, hless⟩, k, hik, hmore⟩

/-- All numbers of turns above the number of places on the way lead to the same places. -/
theorem turns_congr {last : Nat} {r : Nat → Nat → Prop} (hr : Ahead last r) {m n i j : Nat} (hm : j - i < m)
    (hmn : m ≤ n) : Turns r m i j ↔ Turns r n i j := by
  induction hmn with
  | refl => exact Iff.rfl
  | step hmn ih =>
    rw [ih]
    exact ⟨fun h => (h.stay hr (Nat.lt_of_lt_of_le hm hmn)).2,
      fun h => (h.stay hr (Nat.lt_succ_of_le (Nat.le_of_lt (Nat.lt_of_lt_of_le hm hmn)))).1⟩

/-- Turns that may stay where they are lead as far as all smaller numbers of turns. -/
theorem turns_or_stay {r : Nat → Nat → Prop} {n i j : Nat} :
    Turns (fun i j => i = j ∨ r i j) n i j ↔ ∃ k ≤ n, Turns r k i j := by
  induction n generalizing i with
  | zero => exact ⟨fun h => ⟨0, Nat.le_refl _, h⟩, fun ⟨k, hk, h⟩ => by rwa [Nat.le_zero.mp hk] at h⟩
  | succ n ih =>
    constructor
    · rintro ⟨k, rfl | hik, hkj⟩
      · obtain ⟨m, hm, h⟩ := ih.mp hkj
        exact ⟨m, Nat.le_succ_of_le hm, h⟩
      · obtain ⟨m, hm, h⟩ := ih.mp hkj
        exact ⟨m + 1, Nat.succ_le_succ hm, k, hik, h⟩
    · rintro ⟨m, hm, h⟩
      cases m with
      | zero => exact ⟨i, Or.inl rfl, ih.mpr ⟨0, Nat.zero_le _, h⟩⟩
      | succ m =>
        obtain ⟨k, hik, hkj⟩ := h
        exact ⟨k, Or.inr hik, ih.mpr ⟨m, Nat.le_of_succ_le_succ hm, hkj⟩⟩

theorem turns_add {r : Nat → Nat → Prop} {m n i j : Nat} : Turns r (m + n) i j ↔ ∃ k, Turns r m i k ∧ Turns r n k j := by
  induction m generalizing i with
  | zero => simp [Turns]
  | succ m ih =>
    rw [Nat.succ_add]
    simp only [Turns, ih]
    constructor
    · rintro ⟨a, hia, k, hak, hkj⟩
      exact ⟨k, ⟨a, hia, hak⟩, hkj⟩
    · rintro ⟨k, ⟨a, hia, hak⟩, hkj⟩
      exact ⟨a, hia, k, hak, hkj⟩

/-- So many turns and some more, up to a limit, lead where they lead when both numbers are cut at the number of
    places. -/
theorem turns_within {count : Nat} {r : Nat → Nat → Prop} (hr : Ahead (count - 1) r) (hcount : 0 < count) (least : Nat)
    (limit : Option Nat) (i j : Nat) :
    (∃ n ≤ min ((limit.map (· - least)).getD count) count, Turns r (min least count + n) i j) ↔
      ∃ n, (∀ m, limit = some m → n ≤ m - least) ∧ Turns r (least + n) i j := by
  have hfew {n : Nat} (h : Turns r n i j) : j - i < count := by
    have := hr.turns n i j h
    omega
  constructor
  · rintro ⟨n, hn, h⟩
    refine ⟨n, fun m hm => ?_, ?_⟩
    · subst hm
      simp only [Option.map_some, Option.getD_some] at hn
      omega
    · obtain he | hmany : min least count + n = least + n ∨ count ≤ min least count + n := by omega
      · rwa [he] at h
      · exact (turns_congr hr (Nat.lt_of_lt_of_le (hfew h) hmany) (by omega)).mp h
  · rintro ⟨n, hn, h⟩
    refine ⟨min n count, ?_, ?_⟩
    · cases limit with
      | none =>
        simp only [Option.map_none, Option.getD_none]
        omega
      | some m =>
        have := hn m rfl
        simp only [Option.map_some, Option.getD_some]
        omega
    · obtain he | hmany : min least count + min n count = least + n ∨ count ≤ min least count + min n count := by omega
      · rwa [he]
      · exact (turns_congr hr (Nat.lt_of_lt_of_le (hfew h) hmany) (by omega)).mpr h

/-! ### What a pattern takes -/

/-- A pattern takes what stands between two places of a text. A repetition whose limit lies below its least number
    takes the least number. -/
def Takes (t : Text) : Pattern → Nat → Nat → Prop
  | empty, i, j => i = j ∧ i ≤ t.length
  | one s, i, j => j = i + 1 ∧ ∃ c, t[i]? = some c ∧ s.contains c = true
  | place sides, i, j => i = j ∧ i ≤ t.length ∧
    ∃ s ∈ sides, s.1.holds (t.take i).getLast? = true ∧ s.2.holds t[i]? = true
  | seq p q, i, j => ∃ k, p.Takes t i k ∧ q.Takes t k j
  | alt p q, i, j => p.Takes t i j ∨ q.Takes t i j
  | times min max p, i, j => ∃ n, (∀ m, max = some m → n ≤ m - min) ∧ Turns (p.Takes t) (min + n) i j
  | group p, i, j => p.Takes t i j

theorem ahead_takes (t : Text) (p : Pattern) : Ahead t.length (p.Takes t) := by
  induction p with
  | empty => exact fun i j h => ⟨Nat.le_of_eq h.1, Or.inl h.1⟩
  | one s =>
    rintro i j ⟨rfl, c, hc, -⟩
    have := (List.getElem?_eq_some_iff.mp hc).1
    omega
  | place sides => exact fun i j h => ⟨Nat.le_of_eq h.1, Or.inl h.1⟩
  | seq p q hp hq =>
    rintro i j ⟨k, hik, hkj⟩
    have := hp i k hik
    have := hq k j hkj
    omega
  | alt p q hp hq => exact fun i j h => h.elim (hp i j) (hq i j)
  | times min max p hp => exact fun i j ⟨n, _, h⟩ => hp.turns (min + n) i j h
  | group p hp => exact hp

/-! ### Sets of places -/

theorem testBit_ofMarks (marks : List Bool) (i : Nat) : (Places.ofMarks marks).testBit i = marks[i]?.getD false := by
  induction marks generalizing i with
  | nil => simp [Places.ofMarks]
  | cons b marks ih =>
    rw [show Places.ofMarks (b :: marks) = 2 * Places.ofMarks marks + b.toNat from rfl]
    cases i with
    | zero => cases b <;> simp [Nat.testBit_zero]
    | succ i =>
      have hhalf (n : Nat) : (2 * n + b.toNat) / 2 = n := by
        have := b.toNat_le
        omega
      rw [Nat.testBit_succ, hhalf, ih, List.getElem?_cons_succ]

theorem testBit_all {t : Text} {i : Nat} : (Places.all t).testBit i = true ↔ i ≤ t.length := by
  rw [Places.all, testBit_ofMarks, List.getElem?_replicate]
  split <;> simp <;> omega

theorem testBit_before {t : Text} {s : CharSet} {i : Nat} :
    (Places.before t s).testBit i = true ↔ ∃ c, t[i]? = some c ∧ s.contains c = true := by
  rw [Places.before, testBit_ofMarks, List.getElem?_map]
  cases t[i]? <;> simp

theorem getElem?_left {t : Text} {i : Nat} (h : i ≤ t.length) :
    (none :: t.map some)[i]? = some (t.take i).getLast? := by
  cases i with
  | zero => rfl
  | succ i =>
    have hi : i < t.length := h
    simp [List.getLast?_take, hi]

theorem getElem?_right {t : Text} {i : Nat} (h : i ≤ t.length) : (t.map some ++ [none])[i]? = some t[i]? := by
  obtain hi | rfl := Nat.lt_or_eq_of_le h
  · rw [List.getElem?_append_left (by simpa using hi)]
    simp [hi]
  · simp

theorem testBit_between {t : Text} {sides : List (Side × Side)} {i : Nat} : (Places.between t sides).testBit i = true ↔
    i ≤ t.length ∧ ∃ s ∈ sides, s.1.holds (t.take i).getLast? = true ∧ s.2.holds t[i]? = true := by
  rw [Places.between, testBit_ofMarks, List.getElem?_zipWith]
  by_cases hi : i ≤ t.length
  · rw [getElem?_left hi, getElem?_right hi]
    simp only [Option.getD_some, List.any_eq_true, Bool.and_eq_true, hi, true_and]
  · have hnone : (t.map some ++ [none])[i]? = none :=
      List.getElem?_eq_none (by simp only [List.length_append, List.length_map, List.length_singleton]; omega)
    rw [hnone]
    cases (none :: t.map some)[i]? <;> simp [hi]

/-! ### The search -/

/-- A function on sets of places leads where a relation leads from one of them. -/
def Carries (f : Places → Places) (r : Nat → Nat → Prop) : Prop :=
  ∀ s j, (f s).testBit j = true ↔ ∃ i, s.testBit i = true ∧ r i j

theorem Carries.comp {f g : Places → Places} {r q : Nat → Nat → Prop} (hf : Carries f r) (hg : Carries g q) :
    Carries (fun s => g (f s)) fun i j => ∃ k, r i k ∧ q k j := fun s j => by
  simp only [hg (f s) j, hf s]
  constructor
  · rintro ⟨k, ⟨i, hi, hik⟩, hkj⟩
    exact ⟨i, hi, k, hik, hkj⟩
  · rintro ⟨i, hi, k, hik, hkj⟩
    exact ⟨k, ⟨i, hi, hik⟩, hkj⟩

theorem Carries.or {f g : Places → Places} {r q : Nat → Nat → Prop} (hf : Carries f r) (hg : Carries g q) :
    Carries (fun s => f s ||| g s) fun i j => r i j ∨ q i j := fun s j => by
  rw [Nat.testBit_or, Bool.or_eq_true, hf s j, hg s j, ← exists_or]
  exact exists_congr fun i => and_or_left.symm

theorem carries_same : Carries (fun s => s) Eq := fun _ j =>
  ⟨fun h => ⟨j, h, rfl⟩, fun ⟨_, h, hij⟩ => hij ▸ h⟩

theorem carries_stay (places : Places) : Carries (fun s => s &&& places) fun i j => i = j ∧ places.testBit i = true :=
  fun s j => by
    rw [Nat.testBit_and, Bool.and_eq_true]
    exact ⟨fun h => ⟨j, h.1, rfl, h.2⟩, fun ⟨_, h, hij, hplaces⟩ => hij ▸ ⟨h, hplaces⟩⟩

theorem carries_step (places : Places) :
    Carries (fun s => (s &&& places) <<< 1) fun i j => j = i + 1 ∧ places.testBit i = true := fun s j => by
  rw [Nat.testBit_shiftLeft, Nat.testBit_and]
  cases j with
  | zero => simp
  | succ j =>
    simp only [Nat.add_sub_cancel, Bool.and_eq_true, decide_eq_true_eq, Nat.add_right_cancel_iff]
    exact ⟨fun ⟨_, h, hplaces⟩ => ⟨j, h, rfl, hplaces⟩, fun ⟨_, h, hij, hplaces⟩ => hij ▸ ⟨by omega, h, hplaces⟩⟩

theorem settle_eq_iterate (f : Places → Places) (turns : Nat) (s : Places) : settle f turns s = f^[turns] s := by
  induction turns generalizing s with
  | zero => rfl
  | succ n ih =>
    rw [settle, Function.iterate_succ_apply]
    split
    · rename_i h
      rw [h, Function.iterate_fixed h]
    · exact ih (f s)

theorem Carries.settle {f : Places → Places} {r : Nat → Nat → Prop} (hf : Carries f r) (n : Nat) :
    Carries (Pattern.settle f n) (Turns r n) := by
  induction n with
  | zero => exact carries_same
  | succ n ih =>
    have hturn : Pattern.settle f (n + 1) = fun s => Pattern.settle f n (f s) := by
      funext s
      rw [settle_eq_iterate, settle_eq_iterate, Function.iterate_succ_apply]
    rw [hturn]
    exact hf.comp ih

theorem carries_times {f : Places → Places} {r : Nat → Nat → Prop} (hf : Carries f r) (m n : Nat) :
    Carries (fun s => settle (fun s => s ||| f s) n (settle f m s)) fun i j => ∃ k ≤ n, Turns r (m + k) i j := fun s j => by
  rw [(hf.settle m).comp ((carries_same.or hf).settle n) s j]
  refine exists_congr fun i => and_congr_right fun _ => ?_
  simp only [turns_or_stay, turns_add]
  constructor
  · rintro ⟨k, hik, a, ha, hkj⟩
    exact ⟨a, ha, k, hik, hkj⟩
  · rintro ⟨a, ha, k, hik, hkj⟩
    exact ⟨k, hik, a, ha, hkj⟩

/-- The route of a pattern leads from a place to the places up to which the pattern takes the text. -/
theorem carries_route (t : Text) (p : Pattern) : Carries ((p.route t).run (t.length + 1)) (p.Takes t) := by
  induction p with
  | empty =>
    intro s j
    simp only [route, Route.run, carries_stay (Places.all t) s j, testBit_all, Takes]
  | one set =>
    intro s j
    simp only [route, Route.run, carries_step (Places.before t set) s j, testBit_before, Takes]
  | place sides =>
    intro s j
    simp only [route, Route.run, carries_stay (Places.between t sides) s j, testBit_between, Takes]
  | seq p q hp hq => exact hp.comp hq
  | alt p q hp hq => exact hp.or hq
  | times min max p hp =>
    intro s j
    have hahead : Ahead (t.length + 1 - 1) (p.Takes t) := ahead_takes t p
    simp only [Takes, ← turns_within hahead (Nat.succ_pos _) min max]
    exact carries_times hp _ _ s j
  | group p hp => exact hp

/-- A pattern occurs in a text when it takes what stands between two places of it. -/
theorem occursIn_iff {p : Pattern} {t : Text} : p.occursIn t = true ↔ ∃ i j, i ≤ t.length ∧ p.Takes t i j := by
  have hreached : p.occursIn t = true ↔ ∃ j, ((p.route t).run (t.length + 1) (Places.all t)).testBit j = true := by
    rw [occursIn, bne_iff_ne]
    refine ⟨Nat.exists_testBit_of_ne_zero, ?_⟩
    rintro ⟨j, hj⟩ hzero
    rw [hzero, Nat.zero_testBit] at hj
    cases hj
  rw [hreached, exists_comm]
  exact exists_congr fun j => by rw [carries_route t p (Places.all t) j]; simp only [testBit_all]

end Pattern
end WikiArticle
