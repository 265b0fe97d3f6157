import Mathlib.Logic.Relation
import WikiArticle.Proofs.Body.Leaving
import WikiArticle.Proofs.Text.Lines

/-! Edits of a source that its article does not show: comments, further blank lines beside a blank line, and white
    space at the end of a line. One such edit leaves every step behind it as it was, so any number of them,
    made and undone in any order, leaves the body as it was. -/

namespace WikiArticle
namespace Body

/-! ### Edits -/

/-- The second lines are the first ones with one edit. -/
inductive Unseen (base : Option Text) : List Text → List Text → Prop
  /-- A comment is put in outside literal blocks. -/
  | comment (before after : List Text) {line : Text} : (pushAll base before .settled).context.inLiteral = false →
      isComment line = true → Unseen base (before ++ after) (before ++ line :: after)
  /-- A blank line is put in behind a blank line outside literal blocks. -/
  | blankBehind (before after : List Text) {b new : Text} : (pushAll base before .settled).context.inLiteral = false →
      Text.isAllBlank b = true → Text.isAllBlank new = true →
      Unseen base (before ++ b :: after) (before ++ b :: new :: after)
  /-- A blank line is put in before a blank line outside literal blocks. -/
  | blankBefore (before after : List Text) {b new : Text} : (pushAll base before .settled).context.inLiteral = false →
      Text.isAllBlank b = true → Text.isAllBlank new = true →
      Unseen base (before ++ b :: after) (before ++ new :: b :: after)
  /-- White space is put in at the end of a line. -/
  | lineEnd (before after : List Text) (line : Text) {blanks : Text} : Text.isAllBlank blanks = true →
      Unseen base (before ++ line :: after) (before ++ (line ++ blanks) :: after)

/-! ### Lines -/

theorem trimEnd_cons_of_not {a : Char} (ha : Text.isBlank a = false) (t : Text) :
    Text.trimEnd (a :: t) = a :: Text.trimEnd t := by
  simp only [Text.trimEnd, List.reverse_cons, List.dropWhile_append]
  split
  · rename_i h
    rw [List.isEmpty_iff] at h
    simp [h, ha]
  · simp

theorem isComment_trimEnd {line : Text} (h : isComment line = true) : isComment (Text.trimEnd line) = true := by
  obtain ⟨rest, rfl⟩ : ∃ rest, line = '#' :: rest := by
    cases line with
    | nil => cases h
    | cons c rest => exact ⟨rest, by simpa [isComment] using h⟩
  rw [trimEnd_cons_of_not rfl]
  rfl

theorem push_comment (base : Option Text) {line : Text} {c : Context} (hc : Single c) (hout : c.inLiteral = false)
    (hline : isComment line = true) : c.push base line = .stay c := by
  have hline : Line.ofText (Text.trimEnd line) = .comment := ofText_comment_iff.mpr (isComment_trimEnd hline)
  cases hc with
  | outside d o => rw [push_outside, Context.plainLine, hline]
  | table d n => rw [push_table, Context.tableLine, hline]
  | literal d => cases hout

theorem push_trimEnd (base : Option Text) (line : Text) (c : Context) :
    c.push base (Text.trimEnd line) = c.push base line := by
  simp only [Context.push, Text.trimEnd_trimEnd]

theorem pushAll_trimEnd (base : Option Text) (lines : List Text) (c : Context) :
    pushAll base (lines.map Text.trimEnd) c = pushAll base lines c := by
  induction lines generalizing c with
  | nil => rfl
  | cons line lines ih =>
    rw [List.map_cons, pushAll_cons, pushAll_cons, push_trimEnd]
    exact Step.andThen_congr (ih _)

/-! ### What the edits keep -/

theorem pushAll_blank (base : Option Text) {b : Text} {c : Context} (hc : Single c) (hout : c.inLiteral = false)
    (hb : Text.isAllBlank b = true) (after : List Text) :
    pushAll base (b :: after) c = c.leave.andThen (pushAll base after) := by
  rw [pushAll_cons, push_blank base hc hout hb]

theorem pushAll_blanks (base : Option Text) {b b' : Text} {c : Context} (hc : Single c) (hout : c.inLiteral = false)
    (hb : Text.isAllBlank b = true) (hb' : Text.isAllBlank b' = true) (after : List Text) :
    pushAll base (b :: b' :: after) c = c.leave.andThen (pushAll base after) := by
  have hagain : pushAll base (b' :: after) (outside c.depth none) = pushAll base after (outside c.depth none) :=
    pushAll_blank base (Single.outside c.depth none) rfl hb' after
  rw [pushAll_blank base hc hout hb]
  exact Step.andThen_congr hagain

theorem pushAll_unseen {base : Option Text} {ls ls' : List Text} (h : Unseen base ls ls') :
    pushAll base ls .settled = pushAll base ls' .settled := by
  cases h with
  | comment before after hout hline =>
    rw [pushAll_append, pushAll_append]
    refine Step.andThen_congr ?_
    rw [pushAll_cons, push_comment base (single_lines base before) hout hline]
    rfl
  | blankBehind before after hout hb hnew =>
    have hc := single_lines base before
    rw [pushAll_append, pushAll_append]
    refine Step.andThen_congr ?_
    rw [pushAll_blank base hc hout hb, pushAll_blanks base hc hout hb hnew]
  | blankBefore before after hout hb hnew =>
    have hc := single_lines base before
    rw [pushAll_append, pushAll_append]
    refine Step.andThen_congr ?_
    rw [pushAll_blank base hc hout hb, pushAll_blanks base hc hout hnew hb]
  | lineEnd before after line hblanks =>
    rw [pushAll_append, pushAll_append]
    refine Step.andThen_congr ?_
    rw [pushAll_cons, pushAll_cons, ← push_trimEnd base (line ++ _), Text.trimEnd_append_of_isAllBlank line hblanks,
      push_trimEnd]

theorem pushAll_edits {base : Option Text} {ls ls' : List Text} (h : Relation.EqvGen (Unseen base) ls ls') :
    pushAll base ls .settled = pushAll base ls' .settled := by
  induction h with
  | rel ls ls' h => exact pushAll_unseen h
  | refl ls => rfl
  | symm ls ls' _ ih => exact ih.symm
  | trans ls ls' ls'' _ _ ih ih' => exact ih.trans ih'

theorem pushAll_lines {base : Option Text} {source edited : Text}
    (h : Relation.EqvGen (Unseen base) (Text.rawLines source) (Text.rawLines edited)) :
    pushAll base (Text.lines source) .settled = pushAll base (Text.lines edited) .settled := by
  rw [Text.lines, Text.lines, pushAll_trimEnd, pushAll_trimEnd, pushAll_edits h]

/-- What is made of lines is told from the step that they make. -/
theorem ofLines_congr {base : Option Text} {lines lines' : List Text}
    (h : pushAll base lines .settled = pushAll base lines' .settled) :
    ofLines base lines = ofLines base lines' ∧ warningsOfLines base lines = warningsOfLines base lines' :=
  ⟨by rw [ofLines, ofLines, fragments, fragments, h], by rw [warningsOfLines, warningsOfLines, h]⟩

/-- Two sources whose lines differ by such edits have the same body, and the same is told about them. -/
theorem ofLines_of_unseen {base : Option Text} {source edited : Text}
    (h : Relation.EqvGen (Unseen base) (Text.rawLines source) (Text.rawLines edited)) :
    ofLines base (Text.lines source) = ofLines base (Text.lines edited) ∧
    warningsOfLines base (Text.lines source) = warningsOfLines base (Text.lines edited) :=
  ofLines_congr (pushAll_lines h)

/-- A row, a blank line and a literal block that is never closed. -/
def tableSource : Text := "|| a ||\n\n\x7b\x7b\x7b\nx\n".toList

/-- The source with a comment and a carriage return behind the row, and blanks behind both other lines. -/
def editedSource : Text := "|| a ||\r\n#c\n\n \n\x7b\x7b\x7b\nx  \n".toList

theorem ofLines_editedSource : Relation.EqvGen (Unseen none) (Text.rawLines tableSource) (Text.rawLines editedSource) ∧
    ofLines none (Text.lines tableSource) = ofLines none (Text.lines editedSource) := by
  let row := "|| a ||".toList
  let block := [Fence.opening.text, "x".toList]
  have hcomment : Unseen none (row :: [] :: block) (row :: ['#', 'c'] :: [] :: block) :=
    .comment [row] ([] :: block) rfl rfl
  have hblank : Unseen none (row :: ['#', 'c'] :: [] :: block) (row :: ['#', 'c'] :: [] :: [' '] :: block) :=
    .blankBehind [row, ['#', 'c']] block rfl rfl rfl
  have hrow : Unseen none (row :: ['#', 'c'] :: [] :: [' '] :: block)
      ((row ++ ['\r']) :: ['#', 'c'] :: [] :: [' '] :: block) :=
    .lineEnd [] (['#', 'c'] :: [] :: [' '] :: block) row rfl
  have hcode : Unseen none ((row ++ ['\r']) :: ['#', 'c'] :: [] :: [' '] :: block)
      [row ++ ['\r'], ['#', 'c'], [], [' '], Fence.opening.text, "x".toList ++ [' ', ' ']] :=
    .lineEnd [row ++ ['\r'], ['#', 'c'], [], [' '], Fence.opening.text] [] "x".toList rfl
  have hedits : Relation.EqvGen (Unseen none) (Text.rawLines tableSource) (Text.rawLines editedSource) :=
    (Relation.EqvGen.rel _ _ hcomment).trans _ _ _ <| (Relation.EqvGen.rel _ _ hblank).trans _ _ _ <|
      (Relation.EqvGen.rel _ _ hrow).trans _ _ _ (.rel _ _ hcode)
  exact ⟨hedits, (ofLines_of_unseen hedits).1⟩

/-! ### Carriage returns -/

/-- White space before the line feed that ends a line is white space at the end of the line. -/
theorem unseen_lineFeed (base : Option Text) (t u : Text) {blanks : Text} (hblanks : Text.isAllBlank blanks = true)
    (hfeed : '\n' ∉ blanks) :
    Unseen base (Text.rawLines (t ++ '\n' :: u)) (Text.rawLines (t ++ blanks ++ '\n' :: u)) := by
  obtain ⟨before, line, ht, hline⟩ := Text.exists_pieces_append t hfeed
  rw [Text.rawLines_append, Text.rawLines_append, ht, hline, List.append_assoc, List.append_assoc]
  exact Unseen.lineEnd before (Text.rawLines u) line hblanks

/-- The text with a carriage return before every line feed. -/
def withReturns (t : Text) : Text := t.flatMap fun c => if c = '\n' then ['\r', '\n'] else [c]

theorem withReturns_lineFeed (t : Text) : withReturns ('\n' :: t) = '\r' :: '\n' :: withReturns t := rfl

theorem withReturns_cons {c : Char} (hc : c ≠ '\n') (t : Text) : withReturns (c :: t) = c :: withReturns t := by
  rw [withReturns, List.flatMap_cons, if_neg hc]
  rfl

/-- Behind any text, each carriage return that is put in is one edit. -/
theorem eqvGen_withReturns (base : Option Text) (front t : Text) :
    Relation.EqvGen (Unseen base) (Text.rawLines (front ++ t)) (Text.rawLines (front ++ withReturns t)) := by
  induction t generalizing front with
  | nil => exact .refl _
  | cons c t ih =>
    by_cases hc : c = '\n'
    · subst hc
      have hedit : Unseen base (Text.rawLines (front ++ '\n' :: t)) (Text.rawLines (front ++ ['\r'] ++ '\n' :: t)) :=
        unseen_lineFeed base front t rfl (by decide)
      have hrest := ih (front ++ ['\r', '\n'])
      rw [withReturns_lineFeed]
      simp only [List.append_assoc, List.cons_append, List.nil_append] at hedit hrest
      exact (Relation.EqvGen.rel _ _ hedit).trans _ _ _ hrest
    · have hrest := ih (front ++ [c])
      rw [List.append_assoc, List.append_assoc] at hrest
      rwa [withReturns_cons hc]

/-- A source whose lines end with a carriage return and a line feed has the body of one with line feeds alone. -/
theorem ofLines_withReturns (base : Option Text) (t : Text) :
    ofLines base (Text.lines (withReturns t)) = ofLines base (Text.lines t) ∧
    warningsOfLines base (Text.lines (withReturns t)) = warningsOfLines base (Text.lines t) :=
  ofLines_congr (pushAll_lines (eqvGen_withReturns base [] t)).symm

end Body
end WikiArticle
