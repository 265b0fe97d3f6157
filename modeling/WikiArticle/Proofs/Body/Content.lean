import WikiArticle.Body

/-! What the lines of a source contribute to the body, judged without the body: the fences tell which lines
    stand in a literal block, and the rows and comments before a row tell whether it goes on with a table
    and with how many columns. Each line contributes one thing at most. -/

namespace WikiArticle
namespace Body

/-- What a line contributes to the body. -/
inductive Content where
  /-- The title of a section of the level. -/
  | title (level : Nat) (text : Text)
  | item (kind : ListKind) (text : Text)
  | paragraphLine (text : Text)
  | graphic (fileref : Text)
  | row (cells : List Text)
  | screenLine (text : Text)
  deriving DecidableEq, Repr

/-! ### Places between lines -/

/-- What the lines before a place say about the next one. -/
structure Place where
  /-- Whether the next line stands in a literal block. -/
  inLiteral : Bool
  /-- The number of columns of the table that a row would go on with, zero if it would begin one. -/
  columns : Nat
  deriving DecidableEq, Repr

namespace Place

/-- The place before the first line. -/
def start : Place := ⟨false, 0⟩

/-- Whether the line behind `line` stands in a literal block, by the fences alone. -/
def literalBehind (inLiteral : Bool) (line : Text) : Bool :=
  if inLiteral then line != Fence.closing.text else line == Fence.opening.text

/-- The number of columns of the table that a row at a place belongs to: the row itself says it if it begins one. -/
def columnsOfRow (line : Text) (p : Place) : Nat := if p.columns = 0 then Row.columns line else p.columns

/-- The number of columns of the table that goes on behind a line. A comment leaves a table open; every other line that
    is no row ends it. -/
def columnsBehind (line : Text) (p : Place) : Nat :=
  if p.inLiteral then 0
  else match Line.ofText line with
    | .row => p.columnsOfRow line
    | .comment => p.columns
    | _ => 0

/-- The place behind a line. -/
def behind (line : Text) (p : Place) : Place := ⟨literalBehind p.inLiteral line, p.columnsBehind line⟩

/-- What a line at a place contributes. -/
def content? (base : Option Text) (line : Text) (p : Place) : Option Content :=
  if p.inLiteral then if line = Fence.closing.text then none else some (.screenLine line)
  else match Line.ofText line with
    | .blank | .comment | .fence .opening => none
    | .heading level title => some (.title level title)
    | .row => some (.row (Row.cells (p.columnsOfRow line) line))
    | .picture url => some (.graphic (Picture.fileref base url))
    | .item kind text => some (.item kind text)
    | .fence .closing | .prose => some (.paragraphLine line)

end Place

/-- What the lines from a place on contribute, in their order. -/
def contentsFrom (base : Option Text) : Place → List Text → List Content
  | _, [] => []
  | p, line :: lines =>
    (p.content? base (Text.trimEnd line)).toList ++ contentsFrom base (p.behind (Text.trimEnd line)) lines

/-- What the lines of a body contribute, in their order. -/
def contents (base : Option Text) (lines : List Text) : List Content := contentsFrom base .start lines

/-- The level of the section that a line begins, if it is a heading. -/
def headingLevel? (line : Text) : Option Nat :=
  match Line.ofText line with
  | .heading level _ => some level
  | _ => none

/-! ### Lines known by their text -/

theorem ofText_fence_iff {line : Text} {side : Fence} : Line.ofText line = .fence side ↔ line = side.text := by
  constructor
  · intro h
    unfold Line.ofText at h
    repeat' split at h
    all_goals try cases h
    rename_i hfence
    unfold Fence.ofText? at hfence
    split at hfence
    · cases hfence
      assumption
    · split at hfence
      · cases hfence
        assumption
      · cases hfence
  · rintro rfl
    cases side <;> decide

theorem ofText_comment_iff {line : Text} : Line.ofText line = .comment ↔ isComment line = true := by
  constructor
  · intro h
    unfold Line.ofText at h
    repeat' split at h
    all_goals try cases h
    assumption
  · intro h
    obtain ⟨rest, rfl⟩ : ∃ rest, line = '#' :: rest := by
      cases line with
      | nil => cases h
      | cons c rest => exact ⟨rest, by simpa [isComment] using h⟩
    have hblank : Text.isAllBlank ('#' :: rest) = false := rfl
    rw [Line.ofText, hblank, if_neg Bool.false_ne_true, if_pos h]

theorem heading?_eq_none {c : Char} (h : c ≠ '=') (t : Text) : Heading.ofText? (c :: t) = none := by
  have hbetween (level : Nat) (hlevel : level ≠ 0) : Heading.between? level (c :: t) = none := by
    obtain ⟨n, rfl⟩ := Nat.exists_eq_succ_of_ne_zero hlevel
    simp [Heading.between?, Heading.marks, List.replicate_succ, Ne.symm h]
  simp [Heading.ofText?, Heading.levels, hbetween]

/-- A line that begins with a bar is no heading, since it does not begin with the mark of one. -/
theorem ofText_row_iff {line : Text} : Line.ofText line = .row ↔ Row.isRow line = true := by
  constructor
  · intro h
    unfold Line.ofText at h
    repeat' split at h
    all_goals try cases h
    assumption
  · intro h
    obtain ⟨rest, rfl⟩ := List.isPrefixOf_iff_prefix.mp h
    have hblank : Text.isAllBlank (Row.bar ++ rest) = false := rfl
    have hcomment : isComment (Row.bar ++ rest) = false := rfl
    have hfence : Fence.ofText? (Row.bar ++ rest) = none := rfl
    have hheading : Heading.ofText? (Row.bar ++ rest) = none := heading?_eq_none (by decide) _
    simp [Line.ofText, hblank, hcomment, hfence, hheading, h]

theorem level_of_heading {line : Text} {level : Nat} {title : Text} (h : Line.ofText line = .heading level title) :
    1 ≤ level ∧ level ≤ 3 := by
  unfold Line.ofText at h
  repeat' split at h
  all_goals try cases h
  rename_i heading hheading
  obtain ⟨k, hk, hbetween⟩ := List.exists_of_findSome?_eq_some hheading
  obtain ⟨inner, -, rfl⟩ := Option.map_eq_some_iff.mp hbetween
  simp only [Heading.levels, List.mem_cons, List.not_mem_nil, or_false] at hk
  dsimp only
  omega

end Body
end WikiArticle
