import WikiArticle.Proofs.Inline.Taken

/-! Marked-up text has no pair left. Each kind is marked up until it has none, and a span of another kind makes
    none: the tags that it brings answer like its delimiters when the delimiters beside them are looked at,
    and what is balanced around them was balanced before. So marking up marked-up text changes nothing. -/

namespace WikiArticle
namespace Inline
open Markup

namespace Emphasis

/-! ### A span of another kind -/

/-- Delimiters that make a pair beside spans of other kinds open and close by the text without these spans. -/
theorem Replaced.ends_of_joins {k : Emphasis} {ts us : List Token} {ps : List Taken} {i j : Nat}
    (h : Replaced ts ps us) (hno : ∀ p ∈ ps, p.kind ≠ k) (hj : Joins k us i j) : OpensAt k ts i ∧ ClosesAt k ts j := by
  have hjudged : Judged ts ps ⟨k, i, j⟩ := h.judged_of_joins hj
  have hkept {m : Nat} (hm : us[m]? = some (.char k.delimiter)) : ts[m]? = some (.char k.delimiter) := by
    rw [← h.kept m fun hplace => h.not_char hplace hm, hm]
  constructor
  · obtain ⟨u, hu, hcontent | ⟨p, hp, hk, -⟩⟩ := hjudged.behindOpening
    · exact ⟨hkept hj.opens.delimiter, ⟨u, hu, hcontent⟩, hjudged.beforeOpening⟩
    · exact absurd hk (hno p hp)
  · obtain ⟨m, u, hm, hu, hcontent | ⟨p, hp, hk, -⟩⟩ := hjudged.beforeClosing
    · exact ⟨hkept hj.closes.delimiter, ⟨m, u, hm, hu, hcontent⟩, hjudged.behindClosing⟩
    · exact absurd hk (hno p hp)

/-- What makes a pair beside a span of another kind made one before the span was put. -/
theorem Joins.of_put {k : Emphasis} {p : Taken} {us : List Token} {i j : Nat}
    (h : Joins p.kind us p.opening p.closing) (hk : p.kind ≠ k) (hj : Joins k (p.put us) i j) : Joins k us i j := by
  have hreplaced : Replaced us [p] (p.put us) := (Replaced.refl us).span h
  have hno : ∀ q ∈ [p], q.kind ≠ k := fun q hq => by rwa [List.mem_singleton.mp hq]
  obtain ⟨hopens, hcloses⟩ := hreplaced.ends_of_joins hno hj
  exact ⟨hj.lt, hopens, hcloses,
    h.balanced.of_wrap h.lt h.opens.delimiter h.closes.delimiter hj.balanced hj.lt⟩

/-! ### No pair is left -/

theorem pair?_replace {k l : Emphasis} {t : Text} {p : Pair} (h : pair? k t = none) (hp : pair? l t = some p) :
    pair? k (p.replace l) = none := by
  have hk : l ≠ k := fun e => by
    rw [e, h] at hp
    cases hp
  rw [pair?_eq_none_iff] at h ⊢
  intro i j hj
  rw [tokens_replace hp] at hj
  have hput : Joins (p.taken l).kind (tokens t) (p.taken l).opening (p.taken l).closing := joins_of_pair? hp
  exact h i j (hput.of_put hk hj)

theorem pair?_markUpKind_self (k : Emphasis) (t : Text) : pair? k (markUpKind k t) = none := by
  induction t using markUpKind.induct k with
  | case1 t p hp _ ih => rwa [markUpKind_of_some hp]
  | case2 t hp => rwa [markUpKind_of_none hp]

theorem pair?_markUpKind {k : Emphasis} {t : Text} (h : pair? k t = none) (l : Emphasis) :
    pair? k (markUpKind l t) = none := by
  induction t using markUpKind.induct l with
  | case1 t p hp _ ih =>
    rw [markUpKind_of_some hp]
    exact ih (pair?_replace h hp)
  | case2 t hp => rwa [markUpKind_of_none hp]

/-- In marked-up text no pair of any kind is left, so it is marked up already. -/
theorem markUp_markUp (t : Text) : (∀ k, pair? k (markUp t) = none) ∧ markUp (markUp t) = markUp t := by
  have hmarked : markUp t = markUpKind .literal (markUpKind .italic (markUpKind .bold t)) := rfl
  have hbold := pair?_markUpKind (pair?_markUpKind (pair?_markUpKind_self .bold t) .italic) .literal
  have hitalic := pair?_markUpKind (pair?_markUpKind_self .italic (markUpKind .bold t)) .literal
  have hliteral := pair?_markUpKind_self .literal (markUpKind .italic (markUpKind .bold t))
  rw [← hmarked] at hbold hitalic hliteral
  refine ⟨fun k => by cases k <;> assumption, ?_⟩
  rw [markUp, all, List.foldl_cons, List.foldl_cons, List.foldl_cons, List.foldl_nil, markUpKind_of_none hbold,
    markUpKind_of_none hitalic, markUpKind_of_none hliteral]

end Emphasis
end Inline
end WikiArticle
