import WikiArticle.Proofs.Body.Reading
import WikiArticle.Proofs.Body.Regroup

/-! What can be read of the paragraphs, lists and tables of a body: there is one for every run of lines, in their
    order, and it holds what the lines of its run contribute. -/

namespace WikiArticle
open Markup Inline

namespace Markup.Forest

/-- What is read of the elements of a forest, in their order. Inside an element that gives no answer, the elements
    in it are read instead. -/
def collect {α : Type} (read : Text → Forest → Option (List α)) : Forest → List α
  | nil => []
  | char _ next => next.collect read
  | element tag inside next => (read tag inside).getD (inside.collect read) ++ next.collect read

theorem collect_append {α : Type} (read : Text → Forest → Option (List α)) (f g : Forest) :
    (f.append g).collect read = f.collect read ++ g.collect read := by
  induction f with
  | nil => rfl
  | char c next ih => rw [append, collect, collect, ih]
  | element tag inside next _ ih => rw [append, collect, collect, ih, List.append_assoc]

/-- Nothing is read where every element is of a name that gives no answer. -/
theorem collect_eq_nil {α : Type} {read : Text → Forest → Option (List α)} {f : Forest}
    (h : ∀ tag, Token.start tag ∈ f.tokens → ∀ inside, read tag inside = none) : f.collect read = [] := by
  induction f with
  | nil => rfl
  | char c next ih => exact ih fun tag htag => h tag (List.mem_cons_of_mem _ htag)
  | element tag inside next hinside hnext =>
    rw [collect, h tag List.mem_cons_self, Option.getD_none,
      hinside fun t ht => h t (List.mem_cons_of_mem _ (List.mem_append_left _ ht)),
      hnext fun t ht => h t (List.mem_cons_of_mem _ (List.mem_append_right _ (List.mem_cons_of_mem _ ht)))]
    rfl

end Markup.Forest

namespace Body

/-! ### Tokens that are collected -/

section Collects

variable {α : Type} {read : Text → Forest → Option (List α)} {ts us : List Token} {xs ys : List α}

/-- The tokens are those of a forest of whose elements `xs` is read. -/
def Collects (read : Text → Forest → Option (List α)) (ts : List Token) (xs : List α) : Prop :=
  ∃ f : Forest, ts = f.tokens ∧ f.collect read = xs

theorem collects_nil : Collects read [] [] := ⟨.nil, rfl, rfl⟩

theorem Collects.append (ht : Collects read ts xs) (hu : Collects read us ys) : Collects read (ts ++ us) (xs ++ ys) := by
  obtain ⟨f, rfl, rfl⟩ := ht
  obtain ⟨g, rfl, rfl⟩ := hu
  exact ⟨f.append g, (f.tokens_append g).symm, f.collect_append read g⟩

theorem Collects.char (c : Char) (h : Collects read ts xs) : Collects read (.char c :: ts) xs := by
  obtain ⟨f, rfl, rfl⟩ := h
  exact ⟨.char c f, rfl, rfl⟩

theorem Collects.section {k : Nat} (hread : ∀ inside, read (sectionName k) inside = none) (h : Collects read ts xs)
    (hnext : Collects read us ys) :
    Collects read (.start (sectionName k) :: (ts ++ .stop (sectionName k) :: us)) (xs ++ ys) := by
  obtain ⟨f, rfl, rfl⟩ := h
  obtain ⟨g, rfl, rfl⟩ := hnext
  have hname : elementName (sectionName k) = sectionName k :=
    elementName_of_notMem (Fragment.notMem_sectionName (by decide) (by decide) k)
  refine ⟨.element (sectionName k) f g, by rw [Forest.tokens, hname], ?_⟩
  rw [Forest.collect, hread, Option.getD_none]

theorem collects_element {tag name : Text} (inside : Forest) (hname : elementName tag = name) :
    Collects read (.start tag :: (inside.tokens ++ [.stop name, .char '\n']))
      ((read tag inside).getD (inside.collect read)) := by
  refine ⟨.element tag inside (.char '\n' .nil), by rw [Forest.tokens, hname]; rfl, ?_⟩
  rw [Forest.collect]
  exact List.append_nil _

end Collects

/-! ### Trees that are collected -/

theorem flatMap_filter_runs {α : Type} {g : Block → List α} (hother : ∀ b : Block, b.runKind? = none → g b = [])
    (bs : List Block) : (bs.filter (·.runKind?.isSome)).flatMap g = bs.flatMap g := by
  induction bs with
  | nil => rfl
  | cons b bs ih =>
    cases hkind : b.runKind? with
    | none => rw [List.filter_cons_of_neg (by simp [hkind]), List.flatMap_cons, ih, hother b hkind, List.nil_append]
    | some kind => rw [List.filter_cons_of_pos (by simp [hkind]), List.flatMap_cons, List.flatMap_cons, ih]

section Reads

variable {α : Type} {read : Text → Forest → Option (List α)} {g : Block → List α}

/-- Sections give no answer, nothing is read of titles, and of each block what `g` says. -/
structure Reads (read : Text → Forest → Option (List α)) (g : Block → List α) : Prop where
  sections : ∀ k inside, read (sectionName k) inside = none
  title : ∀ source, Collects read (Fragment.title source).tokens []
  block : ∀ b : Block, Collects read (b.fragments.flatMap Fragment.tokens) (g b)

variable (h : Reads read g)
include h

theorem Reads.blocks (bs : List Block) :
    Collects read ((bs.flatMap Block.fragments).flatMap Fragment.tokens) (bs.flatMap g) := by
  induction bs with
  | nil => exact collects_nil
  | cons b bs ih =>
    rw [List.flatMap_cons, List.flatMap_cons, List.flatMap_append]
    exact (h.block b).append ih

theorem Reads.outline (o : Outline) (k : Nat) :
    Collects read ((o.fragments k).flatMap Fragment.tokens) (o.blocks.flatMap g) := by
  induction o generalizing k with
  | nil => exact collects_nil
  | titled title blocks inside next hinside hnext =>
    have hin := ((h.title title).append ((h.blocks blocks).append (hinside (k + 1)))).char ' '
    obtain ⟨c, hc⟩ := tokens_ending k next
    have := hin.section (h.sections k) ((hnext k).char c)
    rw [Outline.fragments, Outline.blocks]
    simpa [hc, tokens_sectionStart] using this
  | skipped inside next hinside hnext =>
    obtain ⟨c, hc⟩ := tokens_ending k next
    have := ((hinside (k + 1)).char ' ').section (h.sections k) ((hnext k).char c)
    rw [Outline.fragments, Outline.blocks]
    simpa [hc, tokens_sectionStart] using this

/-- What is read of a body, if it is nothing but what is read of the blocks of runs, is read of the runs of its lines
    in their order. -/
theorem Reads.ofLines (hother : ∀ b : Block, b.runKind? = none → g b = []) (base : Option Text) (lines : List Text) :
    (Forest.ofText? (Body.ofLines base lines)).map (Forest.collect read) =
      some ((runs (lines.map Text.trimEnd)).flatMap fun r => g r.block) := by
  obtain ⟨t, -, hfragments, hruns⟩ := exists_tree_runs base lines
  obtain ⟨f, hf, hread⟩ := (h.blocks t.blocks).append (h.outline t.sections 1)
  have htokens : Markup.tokens (Body.ofLines base lines) = f.tokens := by
    rw [Body.ofLines, hfragments, (Fragment.cut_textOf t.fragments).2, ← hf, Tree.fragments, List.flatMap_append]
  rw [Forest.ofText?, htokens, Forest.ofTokens?_tokens, Option.map_some, hread, ← List.flatMap_append,
    ← flatMap_filter_runs hother, ← Tree.allBlocks, hruns, List.flatMap_map]

end Reads

/-! ### Containers -/

/-- The name of the element that a run makes. -/
def RunKind.name : RunKind → Text
  | container kind => kind.name
  | table => "table".toList

/-- The kind of the runs that make elements of a name. -/
def elementKind? (name : Text) : Option RunKind :=
  [.container .paragraph, .container (.list .itemized), .container (.list .ordered), .table].find? fun kind : RunKind =>
    kind.name == name

/-- What is read of the paragraphs, lists and tables that stand in no element but sections: the kind of each, and
    what it holds. -/
def readContainer (tag : Text) (inside : Forest) : Option (List (RunKind × List Content)) :=
  if "sect".toList.isPrefixOf tag then none
  else some (((elementKind? (elementName tag)).map fun kind => (kind, contentsOf 0 tag inside)).toList)

/-- The paragraphs, lists and tables right in the body that a text is, or right in a section of it. -/
def containers? (t : Text) : Option (List (RunKind × List Content)) :=
  (Forest.ofText? t).map (Forest.collect readContainer)

/-- What is read of a block that is made of a run. -/
def Block.container (b : Block) : List (RunKind × List Content) :=
  (b.runKind?.map fun kind => (kind, b.contents.flatMap Content.readings)).toList

theorem elementKind_tag (b : Block) : elementKind? (elementName b.tag) = b.runKind? := by
  cases b with
  | run kind first more =>
    cases kind with
    | paragraph => rfl
    | list kind => cases kind <;> rfl
  | _ => rfl

theorem reads_container : Reads readContainer Block.container where
  sections _ _ := rfl
  title source := by
    obtain ⟨f, hf, -⟩ := exists_markUp_forest source
    have hread := @collects_element _ readContainer "title".toList _ f rfl
    rw [Fragment.tokens, hf]
    exact hread
  block b := by
    obtain ⟨inside, htokens, hcontents⟩ := exists_block_forest b
    have hread := @collects_element _ readContainer b.tag _ inside rfl
    rw [readContainer, not_isPrefixOf_tag, if_neg Bool.false_ne_true, Option.getD_some, elementKind_tag,
      hcontents] at hread
    rw [htokens]
    exact hread

/-- The paragraphs, lists and tables right in the body or in a section are one for each run of lines, in their order,
    and hold what the lines of their run contribute. -/
theorem containers_ofLines (base : Option Text) (lines : List Text) : containers? (ofLines base lines) =
    some ((runs (lines.map Text.trimEnd)).map fun r => (r.kind, r.contents.flatMap Content.readings)) := by
  have hother (b : Block) (hb : b.runKind? = none) : b.container = [] := by
    rw [Block.container, hb]
    rfl
  have hblock (r : Run) : r.block.container = [(r.kind, r.contents.flatMap Content.readings)] := by
    rw [← r.contents_block]
    obtain ⟨kind, first, more⟩ := r
    cases kind <;> rfl
  rw [containers?, reads_container.ofLines hother]
  simp only [hblock, List.map_eq_flatMap]

end Body
end WikiArticle
