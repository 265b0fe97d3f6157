import WikiArticle.Proofs.Body.Attributes
import WikiArticle.Proofs.Body.Containers
import WikiArticle.Proofs.Body.Names
import WikiArticle.Proofs.Line.Row

/-! What can be read of the tables of a body, wherever they stand. Each is made by a run of rows: the first of them
    says how many columns there are, and every row fills as many entries, with its pieces as far as they go. -/

namespace WikiArticle
namespace Body
open Markup Inline

/-! ### Reading -/

/-- What is read of a table. -/
structure Table where
  /-- The values of the attribute that says how many columns there are. -/
  columns : List Text
  /-- The rows, by the texts of their entries. -/
  rows : List (List Text)
  deriving DecidableEq, Repr

/-- What stands between the brackets of the start tags of the outermost elements of a name. -/
def tagsOf (name : Text) : Forest → List Text :=
  Forest.collect fun tag _ => if elementName tag = name then some [tag] else none

/-- The values of an attribute, as they are written. -/
def attributeOf (key : Text) (tags : List Text) : List Text :=
  tags.filterMap fun tag => (StartTag.ofText? tag).bind (StartTag.value? key)

/-- What is read of an element, if it is a table. -/
def readTable (tag : Text) (inside : Forest) : Option (List Table) :=
  if elementName tag = "table".toList then
    some [⟨attributeOf "cols".toList (tagsOf "tgroup".toList inside), rowTexts inside⟩]
  else none

/-- The tables anywhere in a text. -/
def tables? (t : Text) : Option (List Table) := (Forest.ofText? t).map (Forest.collect readTable)

/-! ### Blocks -/

/-- What is read of a block that is a table. -/
def Block.tables : Block → List Table
  | table columns first more => [⟨[decimal columns], (first :: more).map fun cells => cells.map markUp⟩]
  | _ => []

theorem attributeOf_columns (columns : Nat) (rows : Forest) :
    attributeOf "cols".toList (tagsOf "tgroup".toList (tableForest columns rows)) = [decimal columns] := by
  have htags : tagsOf "tgroup".toList (tableForest columns rows) = [Fragment.columnsTag columns] := rfl
  rw [htags, attributeOf, List.filterMap_cons, ofText_columnsTag]
  rfl

theorem table_ne_sectionName (k : Nat) : "table".toList ≠ sectionName k := fun h => by
  cases congrArg List.head? h

theorem table_notMem_names {f : Fragment} (h : ∀ columns, f ≠ .tableStart columns) : "table".toList ∉ f.names := by
  cases f with
  | sectionStart k => exact fun h => table_ne_sectionName k (List.mem_singleton.mp h)
  | tableStart columns => exact absurd rfl (h columns)
  | containerStart kind =>
    cases kind with
    | paragraph => decide
    | list kind => cases kind <;> decide
  | _ => simp only [Fragment.names]; decide

/-- Nothing is read of fragments in which no table begins. -/
theorem collects_none {fs : List Fragment} {f : Forest} (hf : fs.flatMap Fragment.tokens = f.tokens)
    (h : ∀ columns, .tableStart columns ∉ fs) : Collects readTable (fs.flatMap Fragment.tokens) [] := by
  refine ⟨f, hf, Forest.collect_eq_nil fun tag htag inside => if_neg fun hname => ?_⟩
  rw [← hf] at htag
  obtain ⟨g, hg, hmem⟩ := Fragment.mem_names htag
  refine table_notMem_names ?_ (hname ▸ hmem)
  rintro columns rfl
  exact h columns hg

theorem collects_none_block {b : Block} (h : ∀ columns, .tableStart columns ∉ b.fragments) :
    Collects readTable (b.fragments.flatMap Fragment.tokens) [] := by
  obtain ⟨inside, hb, -⟩ := exists_block_forest b
  exact collects_none (f := .element b.tag inside (.char '\n' .nil)) hb h

theorem reads_tables : Reads readTable Block.tables where
  sections k inside := by
    have hname : elementName (sectionName k) = sectionName k :=
      elementName_of_notMem (Fragment.notMem_sectionName (by decide) (by decide) k)
    exact if_neg fun h => table_ne_sectionName k (h.symm.trans hname)
  title source := by
    obtain ⟨f, hf, -⟩ := exists_markUp_forest source
    have htokens : [Fragment.title source].flatMap Fragment.tokens =
        (Forest.element "title".toList f (.char '\n' .nil)).tokens := by
      rw [List.flatMap_singleton, Fragment.tokens, hf]
      rfl
    have hread := collects_none htokens (by simp)
    rwa [List.flatMap_singleton] at hread
  block b := by
    cases b with
    | table columns first more =>
      obtain ⟨f, hf, hrows⟩ := exists_table_forest columns first more
      have hread := @collects_element _ readTable "table frame='all'".toList _ (tableForest columns f) rfl
      have hname : elementName "table frame='all'".toList = "table".toList := rfl
      rw [readTable, if_pos hname, Option.getD_some, attributeOf_columns, hrows, hname] at hread
      rw [hf]
      exact hread
    | run kind first more =>
      refine collects_none_block fun columns hmem => ?_
      cases kind <;> simp [Block.fragments, lineOf] at hmem
    | screen lines =>
      refine collects_none_block fun columns hmem => ?_
      simp [Block.fragments] at hmem
    | graphic fileref =>
      refine collects_none_block fun columns hmem => ?_
      simp [Block.fragments] at hmem

/-! ### Runs -/

/-- The runs of rows among some lines, in their order. -/
def tableRuns (ls : List Text) : List Run := (runs ls).filter fun r => r.kind == .table

/-- The table is made by the run: it has `n` columns, as the first row asks for, and each row fills its entries. -/
structure Tabulates (r : Run) (n : Nat) (t : Table) : Prop where
  columns : t.columns = [decimal n]
  first : ∃ ps, Row.HasPieces r.first ps ∧ Row.Asks ps n
  rows : List.Forall₂ (fun line entries => ∃ ps, Row.HasPieces line ps ∧ Row.Fills n ps entries) r.lines t.rows

theorem isRow_of_run {ls : List Text} {r : Run} (hr : r ∈ tableRuns ls) {line : Text} (hline : line ∈ r.lines) :
    Row.isRow line = true := by
  obtain ⟨hr, hkind⟩ := List.mem_filter.mp hr
  have hline := runKind_of_run hr hline
  rw [eq_of_beq hkind] at hline
  exact ofText_row_iff.mp (ofText_row_of_runKind hline)

/-- The table that a run of rows makes. -/
def Run.table (r : Run) : Table :=
  let n := Row.columns r.first
  ⟨[decimal n], r.lines.map fun line => (Row.cells n line).map markUp⟩

theorem tabulates_table {ls : List Text} {r : Run} (hr : r ∈ tableRuns ls) :
    Tabulates r (Row.columns r.first) r.table where
  columns := rfl
  first := ⟨_, Row.hasPieces_of_isRow (isRow_of_run hr List.mem_cons_self), Row.asks_columns r.first⟩
  rows := by
    refine List.forall₂_map_right_iff.mpr (List.forall₂_same.mpr fun line hline => ?_)
    exact ⟨_, Row.hasPieces_of_isRow (isRow_of_run hr hline), Row.fills_cells _ line⟩

theorem flatMap_tables (rs : List Run) :
    rs.flatMap (fun r => r.block.tables) = (rs.filter fun r => r.kind == .table).map Run.table := by
  induction rs with
  | nil => rfl
  | cons r rs ih =>
    obtain ⟨kind, first, more⟩ := r
    cases kind with
    | container kind =>
      rw [List.flatMap_cons, ih, List.filter_cons_of_neg Bool.false_ne_true]
      rfl
    | table =>
      have htable : (Run.mk .table first more).block.tables = [(Run.mk .table first more).table] := by
        simp [Run.block, Block.tables, Run.table, Run.lines]
      rw [List.flatMap_cons, ih, List.filter_cons_of_pos rfl, List.map_cons, htable, List.singleton_append]

/-- Every table of a body is made by a run of rows, and every run of rows makes one. All rows of a table have as many
    entries as its first row asks for: the pieces of each row fill the first ones, and the others are empty. -/
theorem tables_ofLines (base : Option Text) (lines : List Text) :
    ∃ tables, tables? (ofLines base lines) = some tables ∧
      List.Forall₂ (fun r t => ∃ n, Tabulates r n t) (tableRuns (lines.map Text.trimEnd)) tables := by
  have hother (b : Block) (hb : b.runKind? = none) : b.tables = [] := by
    cases b with
    | table columns first more => cases hb
    | _ => rfl
  have hread := reads_tables.ofLines hother base lines
  rw [flatMap_tables] at hread
  refine ⟨_, hread, List.forall₂_map_right_iff.mpr (List.forall₂_same.mpr fun r hr => ?_)⟩
  exact ⟨_, tabulates_table hr⟩

end Body
end WikiArticle
