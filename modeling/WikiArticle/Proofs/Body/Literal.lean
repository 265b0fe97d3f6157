import WikiArticle.Proofs.Body.Leaving
import WikiArticle.Proofs.Body.Written
import WikiArticle.Proofs.Text.Lines

/-! Literal blocks. Whatever is open before a literal block is left for it, and whatever its lines look like, they
    are written one after the other, escaped; so they can be read back from the text of the block. -/

namespace WikiArticle
namespace Body
open Inline

/-! ### The text of a block -/

/-- The text that ends the container or table that is open. -/
def blockEndText (c : Context) : Text :=
  match c.container with
  | some kind => endTag kind.name ++ ['\n']
  | none => if c.inTable then "</tbody></tgroup></table>\n".toList else []

/-- The text that stands between the tags of a literal block. -/
def literalText (lines : List Text) : Text := lines.flatMap fun l => escape (Text.trimEnd l) ++ ['\n']

theorem textOf_blockEnds {c : Context} (hc : Single c) (hout : c.inLiteral = false) :
    Fragment.textOf c.blockEnds = blockEndText c := by
  cases hc with
  | outside d o =>
    cases o with
    | none => rfl
    | some kind =>
      have hends : (outside d (some kind)).blockEnds = [.containerEnd kind] := rfl
      rw [hends, Fragment.textOf_cons, Fragment.text_containerEnd, Fragment.textOf_nil, List.append_nil]
      rfl
  | table d n => rfl
  | literal d => cases hout

theorem textOf_screenLines (lines : List Text) :
    Fragment.textOf (lines.map fun l => .screenLine (Text.trimEnd l)) = literalText lines := by
  rw [Fragment.textOf_map, literalText]
  simp only [Fragment.text_screenLine]

theorem lt_notMem_literalText (lines : List Text) : '<' ∉ literalText lines := by
  intro h
  obtain ⟨l, -, h⟩ := List.mem_flatMap.mp h
  rcases List.mem_append.mp h with h | h
  · exact lt_notMem_escape _ h
  · exact absurd h (by decide)

/-- A line without a line feed of its own is one line of the text, and its entities stand for its characters. -/
theorem decode_rawLines_literalText {lines : List Text} (h : ∀ l ∈ lines, '\n' ∉ l) :
    (Text.rawLines (literalText lines)).map decode = lines.map Text.trimEnd := by
  have hwritten : literalText lines = (lines.map fun l => escape (Text.trimEnd l)).flatMap fun t => t ++ ['\n'] := by
    rw [List.flatMap_map]
    rfl
  have hpieces : ∀ l ∈ lines, Text.pieces '\n' (escape (Text.trimEnd l)) = [escape (Text.trimEnd l)] := by
    intro l hl
    have htrim : '\n' ∉ Text.trimEnd l := fun hmem => h l hl ((Text.trimEnd_isPrefix l).mem hmem)
    exact Text.pieces_of_notMem (lineFeed_notMem_escape htrim)
  rw [hwritten, Text.rawLines_flatMap, List.flatMap_map, List.flatMap_congr hpieces, ← List.map_eq_flatMap,
    List.map_map]
  exact List.map_congr_left fun l _ => decode_escape (Text.trimEnd l)

/-! ### The lines of a block -/

theorem pushAll_literal (base : Option Text) (d : Nat) {lines : List Text}
    (hlines : ∀ l ∈ lines, Text.trimEnd l ≠ Fence.closing.text) : pushAll base lines ⟨d, none, true, 0⟩ =
      ⟨⟨d, none, true, 0⟩, lines.map fun l => .screenLine (Text.trimEnd l)⟩ := by
  induction lines with
  | nil => rfl
  | cons line lines ih =>
    have hline : Context.push base line ⟨d, none, true, 0⟩ =
        ⟨⟨d, none, true, 0⟩, [.screenLine (Text.trimEnd line)]⟩ := by
      have hcloses : Fence.closes (Text.trimEnd line) = false := decide_eq_false (hlines line List.mem_cons_self)
      rw [push_literal, Context.literalLine, hcloses, if_neg Bool.false_ne_true]
    rw [pushAll_cons, hline, Step.andThen, ih fun l hl => hlines l (List.mem_cons_of_mem _ hl)]
    rfl

theorem pushAll_literalBlock (base : Option Text) {c : Context} (hc : Single c) (hout : c.inLiteral = false)
    {lines : List Text} (hlines : ∀ l ∈ lines, Text.trimEnd l ≠ Fence.closing.text) :
    pushAll base (Fence.opening.text :: lines ++ [Fence.closing.text]) c = ⟨outside c.depth none,
      c.blockEnds ++ .screenStart :: (lines.map fun l => .screenLine (Text.trimEnd l)) ++ [.screenEnd]⟩ := by
  have hopened : c.leave.andThen Context.openLiteral =
      ⟨⟨c.depth, none, true, 0⟩, c.blockEnds ++ [.screenStart]⟩ := rfl
  have hclosed : pushAll base [Fence.closing.text] ⟨c.depth, none, true, 0⟩ =
      ⟨outside c.depth none, [.screenEnd]⟩ := rfl
  rw [List.cons_append, pushAll_cons, push_opening base hc hout, hopened, Step.andThen, pushAll_append,
    pushAll_literal base c.depth hlines, Step.andThen, hclosed]
  simp

/-- A literal block is written behind the end of what was open before it, line by line and escaped, whatever its
    lines look like, and it leaves nothing open but the sections around it. Its text, which runs up to the
    next tag, gives its lines back. -/
theorem textOf_literalBlock (base : Option Text) {before lines : List Text}
    (hout : (pushAll base before .settled).context.inLiteral = false)
    (hlines : ∀ l ∈ lines, Text.trimEnd l ≠ Fence.closing.text) :
    let c := (pushAll base before .settled).context
    let s := pushAll base (Fence.opening.text :: lines ++ [Fence.closing.text]) c
    Fragment.textOf s.written =
      blockEndText c ++ "<screen>\n".toList ++ literalText lines ++ "</screen>\n".toList ∧
    s.context = ⟨c.depth, none, false, 0⟩ ∧
    '<' ∉ literalText lines ∧
    ((∀ l ∈ lines, '\n' ∉ l) → (Text.rawLines (literalText lines)).map decode = lines.map Text.trimEnd) := by
  intro c s
  have hc : Single c := single_lines base before
  have hs : s = _ := pushAll_literalBlock base hc hout hlines
  refine ⟨?_, by rw [hs]; rfl, lt_notMem_literalText lines, decode_rawLines_literalText⟩
  have hstart : Fragment.textOf [.screenStart] = "<screen>\n".toList := rfl
  have hend : Fragment.textOf [.screenEnd] = "</screen>\n".toList := rfl
  rw [hs, ← hstart, ← hend, ← textOf_blockEnds hc hout, ← textOf_screenLines, ← Fragment.textOf_append,
    ← Fragment.textOf_append, ← Fragment.textOf_append]
  simp

/-- Lines that would mean something outside a literal block. -/
def sampleBlock : List Text := ["a < b  ".toList, [], "= no title =".toList, "|| *c* ||".toList, Fence.opening.text]

theorem textOf_sampleBlock : (pushAll none ["= A =".toList, "|| a ||".toList] .settled).context.inLiteral = false ∧
    (∀ l ∈ sampleBlock, Text.trimEnd l ≠ Fence.closing.text) ∧
    (Text.rawLines (literalText sampleBlock)).map decode = sampleBlock.map Text.trimEnd := by
  have hout : (pushAll none ["= A =".toList, "|| a ||".toList] .settled).context.inLiteral = false := rfl
  have hlines : ∀ l ∈ sampleBlock, Text.trimEnd l ≠ Fence.closing.text := by decide
  obtain ⟨-, -, -, hread⟩ := textOf_literalBlock none hout hlines
  exact ⟨hout, hlines, hread (by decide)⟩

end Body
end WikiArticle
