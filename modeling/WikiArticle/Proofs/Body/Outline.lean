import WikiArticle.Proofs.Body.Content

/-! Bodies as trees: blocks, and sections that hold blocks and deeper sections. Every run of lines has a
    first line by construction. A section without a title stands only where a level is skipped, so it
    holds nothing but sections and comes first among those of its level. -/

namespace WikiArticle
namespace Body

/-- What stands between two headings as one element: a run of lines of one kind, or a picture. -/
inductive Block where
  /-- A paragraph with its lines, or a list with its items. -/
  | run (kind : Container) (first : Text) (more : List Text)
  | table (columns : Nat) (first : List Text) (more : List (List Text))
  | screen (lines : List Text)
  | graphic (fileref : Text)
  deriving DecidableEq, Repr

/-- Sections of one level, one after the other. -/
inductive Outline where
  | nil
  /-- A section with its title, its blocks and the sections inside it, and the sections that follow it. -/
  | titled (title : Text) (blocks : List Block) (inside next : Outline)
  /-- A section of a skipped level, with the sections inside it, and the sections that follow it. -/
  | skipped (inside next : Outline)
  deriving DecidableEq, Repr

/-- A body: the blocks before the first section, and the sections. -/
structure Tree where
  blocks : List Block
  sections : Outline
  deriving DecidableEq, Repr

/-! ### Good trees -/

/-- A table has a column, and every row has one cell for each column. -/
def Block.Good : Block → Prop
  | table columns first more => 1 ≤ columns ∧ ∀ cells ∈ first :: more, cells.length = columns
  | _ => True

namespace Outline

/-- Whether the first section is not one of a skipped level. -/
def StartsTitled : Outline → Prop
  | skipped _ _ => False
  | _ => True

/-- The sections, of level `k`, reach no deeper than level three, and skip levels only to go deeper. -/
def Good : Nat → Outline → Prop
  | _, nil => True
  | k, titled _ blocks inside next =>
    k ≤ 3 ∧ (∀ b ∈ blocks, b.Good) ∧ inside.Good (k + 1) ∧ next.Good k ∧ next.StartsTitled
  | k, skipped inside next => k ≤ 3 ∧ inside ≠ nil ∧ inside.Good (k + 1) ∧ next.Good k ∧ next.StartsTitled

end Outline

/-- The blocks and the sections of a body are good, its sections being of the first level. -/
def Tree.Good (t : Tree) : Prop := (∀ b ∈ t.blocks, b.Good) ∧ t.sections.Good 1

/-! ### How they are written -/

/-- How a line of a container is written. -/
def lineOf : Container → Text → Fragment
  | .paragraph => .paragraphLine
  | .list _ => .item

/-- How a block is written. -/
def Block.fragments : Block → List Fragment
  | run kind first more => .containerStart kind :: (first :: more).map (lineOf kind) ++ [.containerEnd kind]
  | table columns first more => .tableStart columns :: (first :: more).map .row ++ [.tableEnd]
  | screen lines => .screenStart :: lines.map .screenLine ++ [.screenEnd]
  | graphic fileref => [.graphic fileref]

namespace Outline

/-- What ends a section of level `k` before the sections that follow it. -/
def ending (k : Nat) : Outline → Fragment
  | nil => .sectionEnd k
  | _ => .sectionTurn k

/-- How sections of level `k` are written. -/
def fragments : Nat → Outline → List Fragment
  | _, nil => []
  | k, titled title blocks inside next =>
    .sectionStart k :: .title title :: (blocks.flatMap Block.fragments ++ inside.fragments (k + 1)
      ++ next.ending k :: next.fragments k)
  | k, skipped inside next =>
    .sectionStart k :: (inside.fragments (k + 1) ++ next.ending k :: next.fragments k)

end Outline

/-- How a body is written. -/
def Tree.fragments (t : Tree) : List Fragment := t.blocks.flatMap Block.fragments ++ t.sections.fragments 1

/-! ### What they hold -/

/-- What a line of a container contributes. -/
def contentOf : Container → Text → Content
  | .paragraph => .paragraphLine
  | .list kind => .item kind

/-- What a block holds. -/
def Block.contents : Block → List Content
  | run kind first more => (first :: more).map (contentOf kind)
  | table _ first more => (first :: more).map .row
  | screen lines => lines.map .screenLine
  | graphic fileref => [.graphic fileref]

/-- What sections of level `k` hold, the titles among it. -/
def Outline.contents : Nat → Outline → List Content
  | _, nil => []
  | k, titled title blocks inside next =>
    .title k title :: (blocks.flatMap Block.contents ++ inside.contents (k + 1) ++ next.contents k)
  | k, skipped inside next => inside.contents (k + 1) ++ next.contents k

/-- What a body holds. -/
def Tree.contents (t : Tree) : List Content := t.blocks.flatMap Block.contents ++ t.sections.contents 1

end Body
end WikiArticle
