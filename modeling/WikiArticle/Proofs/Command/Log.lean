import Mathlib.Data.List.Induction
import WikiArticle.Command.Log
import WikiArticle.Proofs.Text.Lines
import WikiArticle.Proofs.Text.Plain

/-! Which warnings are shown. One directive counts for a topic, and it is told from the names of all of them; a
    warning is shown when that directive shows warnings and the pattern, if there is one, occurs in its text. -/

namespace WikiArticle
namespace Log

/-! ### The directive that counts -/

namespace Directive

/-- Of the directives that concern a topic, none has a longer name than this one, and none behind it has one as
    long. -/
def Counts (ds : List Directive) (topic : Topic) (d : Directive) : Prop :=
  ∃ before after, ds = before ++ d :: after ∧ d.concerns topic = true ∧
    (∀ e ∈ before, e.concerns topic = true → e.weight ≤ d.weight) ∧
    ∀ e ∈ after, e.concerns topic = true → e.weight < d.weight

variable {ds : List Directive} {topic : Topic} {d e : Directive}

theorem Counts.mem (h : Counts ds topic d) : d ∈ ds := by
  obtain ⟨before, after, rfl, -⟩ := h
  exact List.mem_append_right before List.mem_cons_self

theorem Counts.concerns (h : Counts ds topic d) : d.concerns topic = true := by
  obtain ⟨-, -, -, hconcerns, -⟩ := h
  exact hconcerns

theorem Counts.weight_le (h : Counts ds topic d) (he : e ∈ ds) (hconcerns : e.concerns topic = true) :
    e.weight ≤ d.weight := by
  obtain ⟨before, after, rfl, -, hbefore, hafter⟩ := h
  rcases List.mem_append.mp he with he | he
  · exact hbefore e he hconcerns
  · rcases List.mem_cons.mp he with rfl | he
    · exact Nat.le_refl _
    · exact Nat.le_of_lt (hafter e he hconcerns)

/-- A directive that is added at the end counts, if it concerns the topic, unless the one that counted has a longer
    name. -/
theorem counts_concat {x : Directive} : Counts (ds ++ [x]) topic d ↔
    (Counts ds topic d ∧ (x.concerns topic = true → x.weight < d.weight)) ∨
      (d = x ∧ x.concerns topic = true ∧ ∀ e ∈ ds, e.concerns topic = true → e.weight ≤ x.weight) := by
  constructor
  · rintro ⟨before, after, hds, hconcerns, hbefore, hafter⟩
    cases after using List.reverseRecOn with
    | nil =>
      obtain ⟨rfl, hx⟩ := List.append_inj' hds rfl
      cases hx
      exact Or.inr ⟨rfl, hconcerns, hbefore⟩
    | append_singleton after y =>
      obtain ⟨rfl, hx⟩ := List.append_inj' (hds.trans (List.append_assoc before (d :: after) [y]).symm) rfl
      cases hx
      exact Or.inl ⟨⟨before, after, rfl, hconcerns, hbefore, fun e he => hafter e (List.mem_append_left _ he)⟩,
        hafter x (List.mem_append_right _ List.mem_cons_self)⟩
  · rintro (⟨⟨before, after, rfl, hconcerns, hbefore, hafter⟩, hx⟩ | ⟨rfl, hconcerns, hds⟩)
    · refine ⟨before, after ++ [x], List.append_assoc before (d :: after) [x], hconcerns, hbefore, fun e he => ?_⟩
      rcases List.mem_append.mp he with he | he
      · exact hafter e he
      · obtain rfl := List.mem_singleton.mp he
        exact hx
    · exact ⟨ds, [], rfl, hconcerns, hds, nofun⟩

theorem find?_concat (ds : List Directive) (topic : Topic) (x : Directive) : find? (ds ++ [x]) topic =
    if x.concerns topic then
      if (find? ds topic).any fun b => x.weight < b.weight then find? ds topic else some x
    else find? ds topic := by
  unfold find?
  rw [List.filter_append, List.foldl_append]
  by_cases h : x.concerns topic = true <;> simp [h]

theorem find?_eq_none_iff : find? ds topic = none ↔ ∀ e ∈ ds, e.concerns topic = false := by
  induction ds using List.reverseRecOn with
  | nil => exact ⟨fun _ => nofun, fun _ => rfl⟩
  | append_singleton ds x ih =>
    rw [find?_concat, List.forall_mem_append, List.forall_mem_singleton, ← ih]
    cases hx : x.concerns topic with
    | false => simp
    | true =>
      cases find? ds topic with
      | none => simp
      | some b => by_cases h : x.weight < b.weight <;> simp [h]

/-- The search finds the directive that counts. -/
theorem find?_eq_some_iff : find? ds topic = some d ↔ Counts ds topic d := by
  induction ds using List.reverseRecOn generalizing d with
  | nil => exact ⟨nofun, fun ⟨before, after, h, _⟩ => by cases before <;> cases h⟩
  | append_singleton ds x ih =>
    rw [find?_concat, counts_concat]
    by_cases hx : x.concerns topic = true
    · rw [if_pos hx]
      cases hfind : find? ds topic with
      | none =>
        have hnone (e : Directive) (he : e ∈ ds) : ¬e.concerns topic = true :=
          Bool.eq_false_iff.mp (find?_eq_none_iff.mp hfind e he)
        rw [Option.any_none, if_neg Bool.false_ne_true, Option.some_inj]
        constructor
        · rintro rfl
          exact Or.inr ⟨rfl, hx, fun e he h => absurd h (hnone e he)⟩
        · rintro (⟨hd, -⟩ | ⟨rfl, -⟩)
          · exact absurd (ih.mpr hd) (by simp [hfind])
          · rfl
      | some b =>
        have hb : Counts ds topic b := ih.mp hfind
        rw [Option.any_some]
        by_cases hlt : x.weight < b.weight
        · rw [if_pos (by simpa using hlt), Option.some_inj]
          constructor
          · rintro rfl
            exact Or.inl ⟨hb, fun _ => hlt⟩
          · rintro (⟨hd, -⟩ | ⟨rfl, -, hds⟩)
            · exact Option.some_inj.mp (hfind.symm.trans (ih.mpr hd))
            · exact absurd hlt (Nat.not_lt.mpr (hds b hb.mem hb.concerns))
        · rw [if_neg (by simpa using hlt), Option.some_inj]
          constructor
          · rintro rfl
            exact Or.inr ⟨rfl, hx, fun e he h => Nat.le_trans (hb.weight_le he h) (Nat.not_lt.mp hlt)⟩
          · rintro (⟨hd, hless⟩ | ⟨rfl, -⟩)
            · obtain rfl := Option.some_inj.mp (hfind.symm.trans (ih.mpr hd))
              exact absurd (hless hx) hlt
            · rfl
    · rw [if_neg hx, ih]
      exact ⟨fun h => Or.inl ⟨h, fun h => absurd h hx⟩, fun h => h.elim And.left fun h => absurd h.2.1 hx⟩

end Directive

/-! ### Messages -/

variable {env : Environment} {ms : List Message} {m : Message}

/-- The warnings that are shown are those for whose topic a directive counts that shows warnings, and in whose text
    the pattern of the filter occurs, if it has one. -/
theorem mem_shown_iff : m ∈ shown env ms ↔ m ∈ ms ∧
    (∃ d, Directive.Counts (filter env).directives m.topic d ∧ d.level.showsWarnings = true) ∧
    ∀ p, (filter env).pattern = some p → ∃ i j, i ≤ m.text.toList.length ∧ p.Takes m.text.toList i j := by
  have hpattern : (filter env).pattern.all (·.occursIn m.text.toList) = true ↔
      ∀ p, (filter env).pattern = some p → ∃ i j, i ≤ m.text.toList.length ∧ p.Takes m.text.toList i j := by
    rw [Option.all_eq_true]
    exact forall₂_congr fun p _ => Pattern.occursIn_iff
  rw [shown, List.mem_filter, Filter.shows, Bool.and_eq_true, hpattern, Option.any_eq_true]
  simp only [Directive.find?_eq_some_iff]

theorem filter_pattern {directives w : Text} (henv : env filterName = some (String.ofList (directives ++ '/' :: w)))
    (hdirectives : '/' ∉ directives) (hw : '/' ∉ w) : (filter env).pattern = Pattern.ofText? w := by
  have hparts : Text.pieces '/' (directives ++ '/' :: w) = [directives, w] := by
    rw [Text.pieces_append, Text.pieces_of_notMem hdirectives, Text.pieces_of_notMem hw]
    rfl
  rw [filter, henv, Option.elim_some, String.toList_ofList, Filter.ofText, hparts]
  rfl

/-- A pattern behind the slash of a filter, if it holds no signs, is looked for as it is written. -/
theorem mem_shown_iff_infix {directives w : Text}
    (henv : env filterName = some (String.ofList (directives ++ '/' :: w))) (hdirectives : '/' ∉ directives)
    (hw : '/' ∉ w) (hplain : ∀ c ∈ w, c ∉ Pattern.signs) (hpattern : (Pattern.ofText? w).isSome) :
    m ∈ shown env ms ↔ m ∈ ms ∧
      (∃ d, Directive.Counts (filter env).directives m.topic d ∧ d.level.showsWarnings = true) ∧ w <:+: m.text.toList := by
  obtain ⟨p, hp⟩ := Option.isSome_iff_exists.mp hpattern
  have hfilter : (filter env).pattern = some p := (filter_pattern henv hdirectives hw).trans hp
  have hoccurs : (∀ q, (filter env).pattern = some q →
      ∃ i j, i ≤ m.text.toList.length ∧ q.Takes m.text.toList i j) ↔ w <:+: m.text.toList := by
    rw [hfilter, ← Pattern.occursIn_plain hplain hp, Pattern.occursIn_iff]
    exact ⟨fun h => h p rfl, fun h q hq => Option.some_inj.mp hq ▸ h⟩
  rw [mem_shown_iff, hoccurs]

/-- Without a filter every warning is shown. -/
theorem shown_of_unset (h : env filterName = none) (ms : List Message) : shown env ms = ms := by
  have hfilter : filter env = .upTo .warn := by rw [filter, h]; rfl
  rw [shown, hfilter, List.filter_eq_self]
  rintro ⟨topic, text⟩ -
  cases topic <;> rfl

end Log
end WikiArticle
