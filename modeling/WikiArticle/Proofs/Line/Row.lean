import WikiArticle.Line.Row
import WikiArticle.Proofs.Inline.Linked

/-! The pieces of a row, and the cells that they fill. The first row of a table has as many pieces behind its leading
    bar as it has bars there, and one more: the piece behind the last bar gets no cell, unless it is the
    only one. -/

namespace WikiArticle
namespace Row
open Inline

/-! ### Pieces -/

/-- The pieces of a text, split at its bars from left to right: a piece ends before the first bar in what is left, and
    the next one begins behind that bar. -/
inductive Splits : Text → List Text → Prop
  | last {p : Text} : ¬bar <:+: p → Splits p [p]
  | next {p rest : Text} {ps : List Text} : ¬bar <:+: p ++ ['|'] → Splits rest ps → Splits (p ++ bar ++ rest) (p :: ps)

theorem not_bar_cons_iff {c : Char} {t : Text} :
    ¬bar <:+: c :: t ↔ (∀ rest, c = '|' → t = '|' :: rest → False) ∧ ¬bar <:+: t := by
  have hprefix : bar <+: c :: t ↔ ∃ rest, c = '|' ∧ t = '|' :: rest := by
    constructor
    · rintro ⟨rest, h⟩
      obtain ⟨rfl, rfl⟩ := List.cons.inj h
      exact ⟨rest, rfl, rfl⟩
    · rintro ⟨rest, rfl, rfl⟩
      exact ⟨rest, rfl⟩
  rw [List.infix_cons_iff, not_or, hprefix]
  simp only [not_exists, not_and, imp_false]

theorem pieces_of_not_bar {p : Text} (h : ¬bar <:+: p) : pieces p = [p] := by
  induction p with
  | nil => rfl
  | cons c p ih =>
    obtain ⟨hhead, htail⟩ := not_bar_cons_iff.mp h
    rw [pieces, ih htail]
    · rfl
    · exact hhead

/-- A piece and the bar behind it begin with half a bar just if the piece and half of that bar do. -/
theorem begins_iff (p rest : Text) :
    (∃ more, p ++ bar ++ rest = '|' :: more) ↔ ∃ more, p ++ ['|'] = '|' :: more := by
  cases p <;> simp [bar]

theorem pieces_append_bar {p : Text} (h : ¬bar <:+: p ++ ['|']) (rest : Text) :
    pieces (p ++ bar ++ rest) = p :: pieces rest := by
  induction p with
  | nil => rfl
  | cons c p ih =>
    obtain ⟨hhead, htail⟩ := not_bar_cons_iff.mp h
    rw [List.cons_append, List.cons_append, pieces, ih htail]
    · rfl
    · intro more hc hp
      obtain ⟨more, hp⟩ := (begins_iff p rest).mp ⟨more, hp⟩
      exact hhead more hc hp

theorem splits_pieces (t : Text) : Splits t (pieces t) := by
  fun_induction pieces t with
  | case1 rest ih =>
    have hnone : ¬bar <:+: [] ++ ['|'] := by decide
    exact Splits.next hnone ih
  | case2 c rest h ih =>
    cases hpieces : pieces rest with
    | nil =>
      rw [hpieces] at ih
      cases ih
    | cons p ps =>
      rw [hpieces] at ih
      cases ih with
      | last hlast => exact Splits.last (not_bar_cons_iff.mpr ⟨h, hlast⟩)
      | next hnext hrest =>
        refine Splits.next (p := c :: p) (not_bar_cons_iff.mpr ⟨fun more hc hp => ?_, hnext⟩) hrest
        obtain ⟨more, hp⟩ := (begins_iff p _).mpr ⟨more, hp⟩
        exact h more hc hp
  | case3 =>
    have hnone : ¬bar <:+: [] := by decide
    exact Splits.last hnone

/-- A text can be split in one way only, the one that the search for bars finds. -/
theorem splits_iff {t : Text} {ps : List Text} : Splits t ps ↔ ps = pieces t := by
  constructor
  · intro h
    induction h with
    | last h => rw [pieces_of_not_bar h]
    | next h _ ih => rw [pieces_append_bar h, ih]
  · rintro rfl
    exact splits_pieces t

example : pieces "a|||b||".toList = ["a".toList, "|b".toList, []] := by decide

/-- The line is its leading bar, with the pieces behind it. -/
def HasPieces (line : Text) (ps : List Text) : Prop := ∃ rest, line = bar ++ rest ∧ Splits rest ps

theorem hasPieces_of_isRow {line : Text} (h : isRow line = true) : HasPieces line (pieces (body line)) := by
  obtain ⟨rest, rfl⟩ := List.isPrefixOf_iff_prefix.mp h
  refine ⟨rest, rfl, ?_⟩
  rw [body, if_pos h]
  exact splits_pieces rest

/-! ### Columns -/

/-- A first row with the pieces `ps` makes a table of `n` columns. -/
structure Asks (ps : List Text) (n : Nat) : Prop where
  one_le : 1 ≤ n
  /-- There are as many columns as bars between the pieces, but one if there are none. -/
  columns : n = max 1 (ps.length - 1)
  /-- A piece without a bar behind it is kept if it is the only one. -/
  single : ps.length = 1 → ps.drop n = []
  /-- Otherwise the last piece is dropped, and no other. -/
  several : 1 < ps.length → ∃ last, ps.getLast? = some last ∧ ps.drop n = [last]
  /-- Text is lost just if some stands behind the last bar. -/
  lost : (∃ p ∈ ps.drop n, Text.isAllBlank p = false) ↔
    1 < ps.length ∧ ∃ last, ps.getLast? = some last ∧ Text.isAllBlank last = false

theorem asks_columns (line : Text) : Asks (pieces (body line)) (columns line) := by
  have hcolumns : columns line = max 1 ((pieces (body line)).length - 1) := by
    rw [columns, length_pieces, Nat.add_sub_cancel]
  have hlength : 1 ≤ (pieces (body line)).length := by
    rw [length_pieces]
    omega
  generalize pieces (body line) = ps at hcolumns hlength
  have hsingle (h : ps.length = 1) : ps.drop (columns line) = [] := List.drop_eq_nil_of_le (by omega)
  have hseveral (h : 1 < ps.length) : ∃ last, ps.getLast? = some last ∧ ps.drop (columns line) = [last] := by
    obtain ⟨init, last, rfl⟩ := (List.eq_nil_or_concat ps).resolve_left (List.ne_nil_of_length_pos hlength)
    rw [List.concat_eq_append] at h hcolumns ⊢
    rw [List.length_append, List.length_singleton] at h hcolumns
    have hinit : columns line = init.length := by omega
    exact ⟨last, List.getLast?_concat, by rw [hinit, List.drop_left]⟩
  refine ⟨one_le_columns line, hcolumns, hsingle, hseveral, ?_⟩
  by_cases h : 1 < ps.length
  · obtain ⟨last, hlast, hdrop⟩ := hseveral h
    simp [hdrop, hlast, h]
  · simp [hsingle (by omega), h]

/-! ### Cells -/

/-- The entries are those of a row with the pieces `ps` in a table of `n` columns. -/
structure Fills (n : Nat) (ps entries : List Text) : Prop where
  length : entries.length = n
  piece : ∀ i p, i < n → ps[i]? = some p → entries[i]? = some (markUp (Text.trim p))
  empty : ∀ i, i < n → ps.length ≤ i → entries[i]? = some []

theorem fills_cells (n : Nat) (line : Text) : Fills n (pieces (body line)) ((cells n line).map markUp) where
  length := by rw [List.length_map, length_cells]
  piece i p hi hp := by
    have hlength : i < (pieces (body line)).length := (List.getElem?_eq_some_iff.mp hp).1
    have hgiven : i < (((pieces (body line)).map Text.trim).take n).length := by
      rw [List.length_take, List.length_map]
      omega
    rw [List.getElem?_map, cells, List.getElem?_append_left hgiven, List.getElem?_take_of_lt hi, List.getElem?_map, hp]
    rfl
  empty i hi hlength := by
    have hgiven : (((pieces (body line)).map Text.trim).take n).length = (pieces (body line)).length := by
      rw [List.length_take, List.length_map]
      omega
    have hbehind : i - (pieces (body line)).length < n - (pieces (body line)).length := by omega
    rw [List.getElem?_map, cells, List.getElem?_append_right (hgiven ▸ hlength), hgiven,
      List.getElem?_replicate_of_lt hbehind, Option.map_some, markUp_nil]

end Row
end WikiArticle
