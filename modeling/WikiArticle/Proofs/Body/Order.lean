import Mathlib.Data.List.Chain
import Mathlib.Data.List.Infix
import WikiArticle.Proofs.Body.Sections

/-! Parts in the order in which they begin. A part lies in the one before it or in some that are around that one,
    which says of any two parts whether one lies in the other: it does if everything behind the outer one, up
    to the inner one, is deeper than the outer one. Parts without a title change nothing in this. The
    sections of an outline stand in this order. -/

namespace WikiArticle
namespace Body

/-- How a part comes behind the one before it: inside that one or behind parts that end there, and always
    inside it unless both have titles. -/
structure Next (p q : Part) : Prop where
  around : q.around <:+ p.number :: p.around
  inside : p.titled = false ∨ q.titled = false → q.around = p.number :: p.around

/-- The parts stand in the order of their numbers, the body first. -/
structure InOrder (ps : List Part) : Prop where
  number : ∀ i (hi : i < ps.length), ps[i].number = i
  first : ∀ hi : 0 < ps.length, ps[0].around = []
  chain : ps.IsChain Next

namespace InOrder

variable {ps : List Part} {i j : Nat}

theorem getElem_number (h : InOrder ps) {p : Part} (hp : p ∈ ps) :
    ∃ hi : p.number < ps.length, ps[p.number] = p := by
  obtain ⟨i, hi, rfl⟩ := List.getElem_of_mem hp
  have hnumber := h.number i hi
  refine ⟨by omega, ?_⟩
  congr 1

theorem eq_of_number (h : InOrder ps) {p q : Part} (hp : p ∈ ps) (hq : q ∈ ps) (hpq : p.number = q.number) : p = q := by
  obtain ⟨hi, hpi⟩ := h.getElem_number hp
  obtain ⟨hj, hqj⟩ := h.getElem_number hq
  rw [← hpi, ← hqj]
  congr 1

theorem pairwise_number (h : InOrder ps) : ps.Pairwise fun p q => p.number < q.number := by
  rw [List.pairwise_iff_getElem]
  intro i j hi hj hij
  rwa [h.number i hi, h.number j hj]

theorem around_succ (h : InOrder ps) (hi : i + 1 < ps.length) : ps[i + 1].around <:+ i :: ps[i].around := by
  have hnext := (List.isChain_iff_getElem.mp h.chain i hi).around
  rwa [h.number] at hnext

theorem around_inside (h : InOrder ps) (hi : i + 1 < ps.length)
    (htitled : ps[i].titled = false ∨ ps[i + 1].titled = false) : ps[i + 1].around = i :: ps[i].around := by
  have hnext := (List.isChain_iff_getElem.mp h.chain i hi).inside htitled
  rwa [h.number] at hnext

theorem level_inside (h : InOrder ps) (hi : i + 1 < ps.length)
    (htitled : ps[i].titled = false ∨ ps[i + 1].titled = false) : ps[i + 1].level = ps[i].level + 1 := by
  rw [Part.level, h.around_inside hi htitled, List.length_cons, Part.level]

/-! ### Parts in parts -/

theorem lt_of_mem (h : InOrder ps) (hj : j < ps.length) (hi : i ∈ ps[j].around) : i < j := by
  induction j with
  | zero =>
    rw [h.first hj] at hi
    cases hi
  | succ j ih =>
    rcases List.mem_cons.mp ((h.around_succ hj).subset hi) with rfl | hi
    · omega
    · have := ih (by omega) hi
      omega

/-- As long as everything is deeper, the part and what is around it stay around. -/
theorem suffix_of_deeper (h : InOrder ps) (hij : i ≤ j) (hj : j < ps.length)
    (hdeep : ∀ m (hm : m < ps.length), i < m → m ≤ j → ps[i].level < ps[m].level) :
    i :: ps[i].around <:+ j :: ps[j].around := by
  induction j, hij using Nat.le_induction with
  | base => exact List.suffix_rfl
  | succ j hij ih =>
    have hprev := ih (by omega) fun m hm h1 h2 => hdeep m hm h1 (by omega)
    have hlevel := hdeep (j + 1) hj (by omega) (Nat.le_refl _)
    exact (List.suffix_of_suffix_length_le hprev (h.around_succ hj) hlevel).trans (List.suffix_cons _ _)

theorem mem_of_deeper (h : InOrder ps) (hij : i < j) (hj : j < ps.length)
    (hdeep : ∀ m (hm : m < ps.length), i < m → m ≤ j → ps[i].level < ps[m].level) : i ∈ ps[j].around := by
  have hmem := (h.suffix_of_deeper (by omega) hj hdeep).subset List.mem_cons_self
  rcases List.mem_cons.mp hmem with rfl | hmem
  · omega
  · exact hmem

theorem deeper_of_mem (h : InOrder ps) (hj : j < ps.length) (hi : i ∈ ps[j].around) :
    ∀ m (hm : m < ps.length) (_ : i < m) (_ : m ≤ j), ps[i].level < ps[m].level := by
  induction j with
  | zero =>
    rw [h.first hj] at hi
    cases hi
  | succ j ih =>
    have hlt := h.lt_of_mem hj hi
    have hprev : ∀ m (hm : m < ps.length) (_ : i < m) (_ : m ≤ j), ps[i].level < ps[m].level := by
      rcases List.mem_cons.mp ((h.around_succ hj).subset hi) with rfl | hmem
      · intro m _ h1 h2
        omega
      · exact ih (by omega) hmem
    intro m hm h1 h2
    rcases Nat.lt_or_eq_of_le h2 with h2 | rfl
    · exact hprev m hm h1 (by omega)
    · -- Otherwise the next part would lie only in parts around part `i`, and that part in itself.
      by_contra hle
      have hprevious := (List.suffix_cons i ps[i].around).trans (h.suffix_of_deeper (by omega) (by omega) hprev)
      have hsuffix := List.suffix_of_suffix_length_le (h.around_succ hj) hprevious (Nat.not_lt.mp hle)
      exact absurd (h.lt_of_mem (by omega) (hsuffix.subset hi)) (Nat.lt_irrefl i)

/-- A part without a title is deeper than the one before it, so it is as deep as need be if that one is. -/
theorem deeper_of_titled (h : InOrder ps)
    (hdeep : ∀ m (hm : m < ps.length) (_ : i < m) (_ : m ≤ j), ps[m].titled = true → ps[i].level < ps[m].level) :
    ∀ m (hm : m < ps.length) (_ : i < m) (_ : m ≤ j), ps[i].level < ps[m].level := by
  intro m hm h1 h2
  induction m with
  | zero => omega
  | succ m ih =>
    cases htitled : ps[m + 1].titled with
    | true => exact hdeep (m + 1) hm h1 h2 htitled
    | false =>
      have hlevel := h.level_inside hm (Or.inr htitled)
      rcases Nat.lt_or_eq_of_le (Nat.lt_succ_iff.mp h1) with h1 | rfl
      · have := ih (by omega) h1 (by omega)
        omega
      · omega

/-- One part lies in another if every titled part behind that one, up to itself, is deeper than that one. -/
theorem mem_around_iff (h : InOrder ps) {p q : Part} (hp : p ∈ ps) (hq : q ∈ ps) :
    p.number ∈ q.around ↔ p.number < q.number ∧
      ∀ r ∈ ps, r.titled = true → p.number < r.number → r.number ≤ q.number → p.level < r.level := by
  obtain ⟨hi, hpi⟩ := h.getElem_number hp
  obtain ⟨hj, hqj⟩ := h.getElem_number hq
  constructor
  · intro hmem
    rw [← hqj] at hmem
    refine ⟨h.lt_of_mem hj hmem, fun r hr _ h1 h2 => ?_⟩
    obtain ⟨hm, hrm⟩ := h.getElem_number hr
    have := h.deeper_of_mem hj hmem r.number hm h1 h2
    rwa [hpi, hrm] at this
  · rintro ⟨hlt, hdeep⟩
    rw [← hqj]
    refine h.mem_of_deeper hlt hj (h.deeper_of_titled fun m hm h1 h2 htitled => ?_)
    rw [hpi]
    exact hdeep _ (List.getElem_mem hm) htitled (by rwa [h.number]) (by rwa [h.number])

/-! ### Parts without a title -/

/-- Parts without a title lie one in the other, from the one before them to the one behind them. -/
theorem between (h : InOrder ps) {p q r : Part} (hp : p ∈ ps) (hq : q ∈ ps) (hr : r ∈ ps)
    (hpq : p.number < q.number) (hqr : q.number < r.number)
    (hno : ∀ s ∈ ps, p.number < s.number → s.number < r.number → s.titled = false) :
    p.level < q.level ∧ q.level < r.level ∧ q.number ∈ r.around := by
  obtain ⟨hi, hpi⟩ := h.getElem_number hp
  obtain ⟨hm, hqm⟩ := h.getElem_number hq
  obtain ⟨hj, hrj⟩ := h.getElem_number hr
  have huntitled : ∀ a (ha : a < ps.length), p.number < a → a < r.number → ps[a].titled = false := by
    intro a ha h1 h2
    refine hno _ (List.getElem_mem ha) ?_ ?_ <;> rwa [h.number]
  -- Of two parts in a row one has no title, since not both are the ends.
  have hrise : ∀ a b (ha : a < ps.length) (hb : b < ps.length), p.number ≤ a → a < b → b ≤ r.number →
      ps[a].level < ps[b].level := by
    intro a b ha hb hpa hab hbr
    induction b, hab using Nat.le_induction with
    | base =>
      have htitled : ps[a].titled = false ∨ ps[a + 1].titled = false := by
        rcases Nat.lt_or_eq_of_le hpa with hpa | rfl
        · exact Or.inl (huntitled a ha hpa (by omega))
        · exact Or.inr (huntitled _ hb (by omega) (by omega))
      exact Nat.lt_of_lt_of_eq (Nat.lt_succ_self _) (h.level_inside hb htitled).symm
    | succ b hab ih =>
      have hrest := ih (by omega) (by omega)
      have := h.level_inside hb (Or.inl (huntitled b (by omega) (by omega) (by omega)))
      omega
  have hmem : q.number ∈ ps[r.number].around := h.mem_of_deeper hqr hj fun m hm' h1 h2 =>
    hrise q.number m hm hm' (by omega) h1 h2
  have hleft := hrise p.number q.number hi hm (Nat.le_refl _) hpq (by omega)
  have hright := hrise q.number r.number hm hj (by omega) hqr (Nat.le_refl _)
  rw [hpi, hqm] at hleft
  rw [hqm, hrj] at hright
  rw [hrj] at hmem
  exact ⟨hleft, hright, hmem⟩

end InOrder

/-! ### Sections of outlines -/

theorem map_number_sections (o : Outline) (around : List Nat) (n : Nat) :
    (o.sections around n).map Part.number = List.range' n (o.sections around n).length := by
  induction o generalizing around n with
  | nil => rfl
  | titled title blocks inside next hinside hnext | skipped inside next hinside hnext =>
    simp only [Outline.sections, List.map_cons, List.map_append, hinside, hnext, List.length_cons, List.length_append]
    rw [List.range'_succ, List.range'_append_1]

theorem around_of_mem {o : Outline} {around : List Nat} {n : Nat} {s : Part} (hs : s ∈ o.sections around n) :
    around <:+ s.around := by
  induction o generalizing around n with
  | nil => cases hs
  | titled title blocks inside next hinside hnext | skipped inside next hinside hnext =>
    simp only [Outline.sections, List.mem_cons, List.mem_append] at hs
    rcases hs with rfl | hs | hs
    · exact List.suffix_rfl
    · exact (List.suffix_cons n around).trans (hinside hs)
    · exact hnext hs

theorem head_sections {o : Outline} {around : List Nat} {n : Nat} {s : Part}
    (hs : s ∈ (o.sections around n).head?) : s.around = around ∧ (o.StartsTitled → s.titled = true) := by
  cases o with
  | nil => cases hs
  | titled title blocks inside next =>
    cases hs
    exact ⟨rfl, fun _ => rfl⟩
  | skipped inside next =>
    cases hs
    exact ⟨rfl, False.elim⟩

theorem sections_ne_nil {o : Outline} (h : o ≠ .nil) (around : List Nat) (n : Nat) : o.sections around n ≠ [] := by
  cases o with
  | nil => exact absurd rfl h
  | titled | skipped => exact List.cons_ne_nil _ _

theorem last_cons {p s : Part} {ss : List Part} (hs : s ∈ (p :: ss).getLast?) : s ∈ ss.getLast? ∨ ss = [] ∧ s = p := by
  cases ss with
  | nil =>
    cases hs
    exact Or.inr ⟨rfl, rfl⟩
  | cons q ss =>
    rw [List.getLast?_cons_cons] at hs
    exact Or.inl hs

theorem last_append {s : Part} {ss rs : List Part} (hs : s ∈ (ss ++ rs).getLast?) :
    s ∈ rs.getLast? ∨ s ∈ ss.getLast? := by
  rw [Option.mem_def, List.getLast?_append, Option.or_eq_some_iff] at hs
  exact hs.imp_right And.right

/-- A skipped level is followed by a deeper section, so the last section has a title. -/
theorem last_sections {o : Outline} {k : Nat} (h : o.Good k) {around : List Nat} {n : Nat} {s : Part}
    (hs : s ∈ (o.sections around n).getLast?) : s.titled = true := by
  induction o generalizing k around n with
  | nil => cases hs
  | titled title blocks inside next hinside hnext =>
    obtain ⟨-, -, hgood, hgoodNext, -⟩ := h
    rcases last_cons hs with hs | ⟨-, rfl⟩
    · rcases last_append hs with hs | hs
      · exact hnext hgoodNext hs
      · exact hinside hgood hs
    · rfl
  | skipped inside next hinside hnext =>
    obtain ⟨-, hne, hgood, hgoodNext, -⟩ := h
    rcases last_cons hs with hs | ⟨hnil, -⟩
    · rcases last_append hs with hs | hs
      · exact hnext hgoodNext hs
      · exact hinside hgood hs
    · exact absurd (List.append_eq_nil_iff.mp hnil).1 (sections_ne_nil hne _ _)

/-- A section with the sections inside it, and the sections behind it. -/
theorem chain_section {p : Part} {inside next : Outline} {k n : Nat} (hgood : inside.Good k) (htitled : next.StartsTitled)
    (hlast : inside = .nil → p.titled = true)
    (hinside : (inside.sections (p.number :: p.around) (p.number + 1)).IsChain Next)
    (hnext : (next.sections p.around n).IsChain Next) :
    (p :: (inside.sections (p.number :: p.around) (p.number + 1) ++ next.sections p.around n)).IsChain Next := by
  have hfirst : (p :: inside.sections (p.number :: p.around) (p.number + 1)).IsChain Next := by
    refine List.isChain_cons.mpr ⟨fun q hq => ?_, hinside⟩
    obtain ⟨haround, -⟩ := head_sections hq
    exact ⟨haround ▸ List.suffix_rfl, fun _ => haround⟩
  rw [← List.cons_append]
  refine List.isChain_append.mpr ⟨hfirst, hnext, fun q hq r hr => ?_⟩
  -- The last one inside has a title and so has the one behind, which lies in no deeper parts.
  obtain ⟨haround, hr⟩ := head_sections hr
  have hq : q.titled = true ∧ p.around <:+ q.around := by
    rcases last_cons hq with hq | ⟨hnil, rfl⟩
    · exact ⟨last_sections hgood hq, (List.suffix_cons _ _).trans (around_of_mem (List.mem_of_getLast? hq))⟩
    · exact ⟨hlast (Classical.byContradiction fun hne => sections_ne_nil hne _ _ hnil), List.suffix_rfl⟩
  refine ⟨haround ▸ hq.2.trans (List.suffix_cons _ _), ?_⟩
  rw [hq.1, hr htitled]
  nofun

theorem chain_sections {o : Outline} {k : Nat} (h : o.Good k) (around : List Nat) (n : Nat) :
    (o.sections around n).IsChain Next := by
  induction o generalizing k around n with
  | nil => exact .nil
  | titled title blocks inside next hinside hnext =>
    obtain ⟨-, -, hgood, hgoodNext, htitled⟩ := h
    exact chain_section hgood htitled (fun _ => rfl) (hinside hgood _ _) (hnext hgoodNext _ _)
  | skipped inside next hinside hnext =>
    obtain ⟨-, hne, hgood, hgoodNext, htitled⟩ := h
    exact chain_section hgood htitled (fun hnil => absurd hnil hne) (hinside hgood _ _) (hnext hgoodNext _ _)

/-- What the body itself holds has no part in the order. -/
theorem inOrder_sections {o : Outline} (h : o.Good 1) : InOrder (⟨0, [], [], []⟩ :: o.sections [0] 1) where
  number := fun i hi => by
    have hnumbers : (⟨0, [], [], []⟩ :: o.sections [0] 1 : List Part).map Part.number =
        List.range' 0 ((o.sections [0] 1).length + 1) := by
      rw [List.map_cons, map_number_sections, List.range'_succ]
    have hget := List.getElem_of_eq hnumbers (i := i) (by rwa [List.length_map])
    rw [List.getElem_map, List.getElem_range'] at hget
    omega
  first := fun _ => rfl
  chain := by
    refine List.isChain_cons.mpr ⟨fun s hs => ?_, chain_sections h [0] 1⟩
    obtain ⟨haround, -⟩ := head_sections hs
    exact ⟨haround ▸ List.suffix_rfl, fun _ => haround⟩

end Body
end WikiArticle
