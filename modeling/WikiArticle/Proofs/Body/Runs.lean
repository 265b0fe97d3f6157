import Mathlib.Data.List.SplitBy
import Mathlib.Data.List.TakeWhile
import WikiArticle.Proofs.Body.Outline

/-! Runs of lines. Lines of one kind that follow one another outside literal blocks, comments aside, make a
    paragraph, a list or a table; a run goes on as far as it can, so two runs of one kind have a line of
    another kind between them. -/

namespace WikiArticle
namespace Body

/-! ### Runs -/

/-- What the lines of a run make. -/
inductive RunKind where
  | container (kind : Container)
  | table
  deriving DecidableEq, Repr

/-- The kind of the run that a line outside literal blocks belongs to. -/
def runKind? (line : Text) : Option RunKind :=
  match Line.ofText line with
  | .prose | .fence .closing => some (.container .paragraph)
  | .item kind _ => some (.container (.list kind))
  | .row => some .table
  | _ => none

/-- A line with the kind of its run. A line in a literal block belongs to no run, and a comment outside is left
    out. -/
def kindOf (inLiteral : Bool) (line : Text) : List (Option RunKind × Text) :=
  if inLiteral then [(none, line)] else if isComment line then [] else [(runKind? line, line)]

/-- The lines with the kinds of their runs, where the first of them stands in a literal block or not. -/
def kinds : Bool → List Text → List (Option RunKind × Text)
  | _, [] => []
  | inLiteral, line :: ls => kindOf inLiteral line ++ kinds (Place.literalBehind inLiteral line) ls

/-- Lines of one kind, one after the other. -/
structure Run where
  kind : RunKind
  first : Text
  more : List Text
  deriving DecidableEq, Repr

namespace Run

/-- The lines of a run, in their order. -/
def lines (r : Run) : List Text := r.first :: r.more

/-- The run that a stretch of lines of one kind is, if they belong to runs. -/
def ofStretch? : List (Option RunKind × Text) → Option Run
  | (some kind, first) :: more => some ⟨kind, first, more.map Prod.snd⟩
  | _ => none

/-- What a line of a container holds, without its mark. -/
def textIn : Container → Text → Text
  | .paragraph, line => line
  | .list kind, line => (Item.text? kind line).getD []

/-- What a line of a run holds: a row has as many cells as the first row of its run asks for. -/
def contentOf (r : Run) (line : Text) : Content :=
  match r.kind with
  | .container kind => Body.contentOf kind (textIn kind line)
  | .table => .row (Row.cells (Row.columns r.first) line)

/-- What the lines of a run contribute. -/
def contents (r : Run) : List Content := r.lines.map r.contentOf

/-- The block that the lines of a run make. -/
def block : Run → Block
  | ⟨.container kind, first, more⟩ => .run kind (textIn kind first) (more.map (textIn kind))
  | ⟨.table, first, more⟩ =>
    .table (Row.columns first) (Row.cells (Row.columns first) first) (more.map (Row.cells (Row.columns first)))

theorem contents_block (r : Run) : r.block.contents = r.contents := by
  obtain ⟨kind, first, more⟩ := r
  cases kind <;> simp [block, contents, lines, Block.contents, contentOf]

end Run

/-- The runs among lines of known kinds: the longest stretches of lines of one kind. -/
def runsOf (ks : List (Option RunKind × Text)) : List Run :=
  (ks.splitBy fun a b => a.1 == b.1).filterMap Run.ofStretch?

/-- The runs of some lines, in their order. -/
def runs (ls : List Text) : List Run := runsOf (kinds false ls)

/-! ### Runs one after the other -/

theorem splitBy_cons {α κ : Type} [BEq κ] [LawfulBEq κ] (f : α → κ) (a : α) (l : List α) :
    (a :: l).splitBy (fun x y => f x == f y) =
      (a :: l.takeWhile fun x => f x == f a) :: (l.dropWhile fun x => f x == f a).splitBy fun x y => f x == f y := by
  have hsame : ∀ x ∈ a :: l.takeWhile fun x => f x == f a, f x = f a :=
    List.forall_mem_cons.mpr ⟨rfl, fun x hx => eq_of_beq (List.mem_takeWhile_imp (p := fun x => f x == f a) hx)⟩
  have hchain : (a :: l.takeWhile fun x => f x == f a).IsChain fun x y => f x == f y :=
    (List.pairwise_of_forall_mem_list fun x hx y hy => beq_iff_eq.mpr ((hsame x hx).trans (hsame y hy).symm)).isChain
  have hsplit : a :: l = (a :: l.takeWhile fun x => f x == f a) ++ l.dropWhile fun x => f x == f a := by
    rw [List.cons_append, List.takeWhile_append_dropWhile]
  conv => lhs; rw [hsplit]
  rw [List.splitBy_append, List.splitBy_of_isChain (List.cons_ne_nil _ _) hchain, List.singleton_append]
  intro x hx y hy
  rw [hsame x (List.mem_of_mem_getLast? hx), ← Bool.not_eq_true, beq_iff_eq]
  have hother := List.head?_dropWhile_not (fun x => f x == f a) l
  rw [Option.mem_def.mp hy] at hother
  exact Ne.symm (beq_eq_false_iff_ne.mp hother)

theorem runsOf_none (line : Text) (ks : List (Option RunKind × Text)) : runsOf ((none, line) :: ks) = runsOf ks := by
  have hdrop (line : Text) (ks : List (Option RunKind × Text)) :
      runsOf ((none, line) :: ks) = runsOf (ks.dropWhile fun k => k.1 == none) := by
    rw [runsOf, splitBy_cons Prod.fst]
    rfl
  rw [hdrop]
  cases ks with
  | nil => rfl
  | cons k ks =>
    obtain ⟨kind, next⟩ := k
    cases kind with
    | none => rw [hdrop, List.dropWhile_cons_of_pos rfl]
    | some kind => rw [List.dropWhile_cons_of_neg (by simp)]

theorem runsOf_some (kind : RunKind) (line : Text) (ks : List (Option RunKind × Text)) :
    runsOf ((some kind, line) :: ks) = ⟨kind, line, (ks.takeWhile fun k => k.1 == some kind).map Prod.snd⟩ ::
      runsOf (ks.dropWhile fun k => k.1 == some kind) := by
  rw [runsOf, splitBy_cons Prod.fst]
  rfl

theorem mem_of_run {ks : List (Option RunKind × Text)} {r : Run} (hr : r ∈ runsOf ks) {line : Text}
    (hline : line ∈ r.lines) : (some r.kind, line) ∈ ks := by
  obtain ⟨stretch, hstretch, hrun⟩ := List.mem_filterMap.mp hr
  have hsame : (stretch.map Prod.fst).IsChain (· = ·) :=
    (List.isChain_map Prod.fst).mpr ((List.isChain_of_mem_splitBy hstretch).imp fun _ _ h => eq_of_beq h)
  have hmem : ∀ k ∈ stretch, k ∈ ks := fun k hk => by
    rw [← List.flatten_splitBy (fun a b => a.1 == b.1) ks]
    exact List.mem_flatten_of_mem hstretch hk
  match stretch, hrun with
  | (some kind, first) :: more, rfl =>
    have hkinds := (List.pairwise_cons.mp hsame.pairwise).1
    rcases List.mem_cons.mp hline with rfl | hline
    · exact hmem _ List.mem_cons_self
    · obtain ⟨k, hk, rfl⟩ := List.mem_map.mp hline
      have hkind : some kind = k.1 := hkinds k.1 (List.mem_map_of_mem hk)
      rw [hkind]
      exact hmem k (List.mem_cons_of_mem _ hk)

theorem runKind_of_mem_kinds {b : Bool} {ls : List Text} {kind : RunKind} {line : Text}
    (h : (some kind, line) ∈ kinds b ls) : runKind? line = some kind := by
  induction ls generalizing b with
  | nil => cases h
  | cons l ls ih =>
    rcases List.mem_append.mp h with h | h
    · unfold kindOf at h
      split at h
      · cases List.mem_singleton.mp h
      · split at h
        · cases h
        · obtain ⟨hkind, rfl⟩ := Prod.mk.inj (List.mem_singleton.mp h)
          exact hkind.symm
    · exact ih h

/-- The lines of a run are of its kind. -/
theorem runKind_of_run {ls : List Text} {r : Run} (hr : r ∈ runs ls) {line : Text} (hline : line ∈ r.lines) :
    runKind? line = some r.kind := runKind_of_mem_kinds (mem_of_run hr hline)

/-- A comment is no part of a run and does not end it; an empty line does. -/
example : runs ["* a".toList, "#".toList, "* b".toList, [], "* c".toList] =
    [⟨.container (.list .itemized), "* a".toList, ["* b".toList]⟩, ⟨.container (.list .itemized), "* c".toList, []⟩] := by
  decide

end Body
end WikiArticle
