import WikiArticle.Text.Blank

/-! Table rows. A row begins with a bar `||`; bars separate its cells, found from left to right without
    overlap. The first row of a table fixes the number of columns: the number of bars behind the leading
    one, and at least one. -/

namespace WikiArticle
namespace Row

/-- The separator of cells. -/
def bar : Text := ['|', '|']

/-- Whether a line is a row. -/
def isRow (t : Text) : Bool := bar.isPrefixOf t

/-- A row without its leading bar. -/
def body (t : Text) : Text := if isRow t then t.drop 2 else t

/-- The number of bars in a text. -/
def bars : Text → Nat
  | '|' :: '|' :: rest => bars rest + 1
  | _ :: rest => bars rest
  | [] => 0

/-- The pieces of a text between its bars. -/
def pieces : Text → List Text
  | '|' :: '|' :: rest => [] :: pieces rest
  | c :: rest => (c :: (pieces rest).headD []) :: (pieces rest).tail
  | [] => [[]]

/-- The number of columns of a table with the first row `t`. -/
def columns (t : Text) : Nat := max 1 (bars (body t))

/-- The cells of a row in a table of `n` columns: missing ones are empty, surplus ones are dropped. -/
def cells (n : Nat) (t : Text) : List Text :=
  let given := ((pieces (body t)).map Text.trim).take n
  given ++ List.replicate (n - given.length) []

theorem one_le_columns (t : Text) : 1 ≤ columns t := Nat.le_max_left ..

theorem length_pieces (t : Text) : (pieces t).length = bars t + 1 := by
  fun_induction pieces t with
  | case1 rest ih => simp [bars, ih]
  | case2 c rest h ih =>
    rw [bars]
    · simp [ih]
    · exact h
  | case3 => rfl

theorem length_cells (n : Nat) (t : Text) : (cells n t).length = n := by
  simp only [cells, List.length_append, List.length_take, List.length_map, List.length_replicate]
  omega

end Row
end WikiArticle
