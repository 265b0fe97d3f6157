import WikiArticle.Proofs.Body.History
import WikiArticle.Proofs.Body.Runs
import WikiArticle.Proofs.Body.Tree
import WikiArticle.Proofs.Line.Grammar

/-! The blocks of the runs of a source. What a line writes goes on with the block of the run before it or begins
    one, so the blocks of a body that hold lines of text, items or rows are those of the runs of its lines,
    in their order. -/

namespace WikiArticle
namespace Body

/-! ### Blocks of a tree -/

/-- The kind of the run whose block this is, if it is one. -/
def Block.runKind? : Block → Option RunKind
  | run kind _ _ => some (.container kind)
  | table _ _ _ => some .table
  | _ => none

/-- The blocks of an outline, in their order. -/
def Outline.blocks : Outline → List Block
  | nil => []
  | titled _ blocks inside next => blocks ++ (inside.blocks ++ next.blocks)
  | skipped inside next => inside.blocks ++ next.blocks

/-- The blocks of a tree, those in its sections among them, in their order. -/
def Tree.allBlocks (t : Tree) : List Block := t.blocks ++ t.sections.blocks

/-! ### Blocks of fragments -/

/-- The source text of a fragment that is a line of a container. -/
def source? : Fragment → Option Text
  | .paragraphLine source | .item source => some source
  | _ => none

/-- The cells of a fragment that is a row. -/
def cells? : Fragment → Option (List Text)
  | .row cells => some cells
  | _ => none

/-- Whether a fragment is neither a line of a container nor a row, and begins none of their blocks. -/
def isPassive : Fragment → Bool
  | .containerStart _ | .tableStart _ | .paragraphLine _ | .item _ | .row _ => false
  | _ => true

/-- The block of a container that holds some lines, if there are any. -/
def runOf? (kind : Container) : List Text → Option Block
  | [] => none
  | first :: more => some (.run kind first more)

/-- The table that holds some rows, if there are any. -/
def tableOf? (columns : Nat) : List (List Text) → Option Block
  | [] => none
  | first :: more => some (.table columns first more)

/-- The blocks of runs that begin among some fragments, behind the lines and rows of a block that has begun
    before them. -/
def regroup : List Fragment → List Fragment × List Block
  | [] => ([], [])
  | f :: fs =>
    let (inner, blocks) := regroup fs
    match f with
    | .containerStart kind => ([], (runOf? kind (inner.filterMap source?)).toList ++ blocks)
    | .tableStart columns => ([], (tableOf? columns (inner.filterMap cells?)).toList ++ blocks)
    | .paragraphLine _ | .item _ | .row _ => (f :: inner, blocks)
    | _ => (inner, blocks)

theorem regroup_passive {ps : List Fragment} (h : ps.all isPassive = true) (fs : List Fragment) :
    regroup (ps ++ fs) = regroup fs := by
  induction ps with
  | nil => rfl
  | cons f ps ih =>
    obtain ⟨hf, hps⟩ := Bool.and_eq_true_iff.mp (List.all_cons ▸ h)
    rw [List.cons_append, regroup, ih hps]
    cases f <;> first | rfl | cases hf

theorem regroup_line (kind : Container) (text : Text) (fs : List Fragment) :
    regroup (lineOf kind text :: fs) = (lineOf kind text :: (regroup fs).1, (regroup fs).2) := by
  cases kind <;> rfl

theorem regroup_lines (kind : Container) (texts : List Text) {fs : List Fragment} (h : (regroup fs).1 = []) :
    regroup (texts.map (lineOf kind) ++ fs) = (texts.map (lineOf kind), (regroup fs).2) := by
  induction texts with
  | nil => rw [List.map_nil, List.nil_append, ← h]
  | cons text texts ih => rw [List.map_cons, List.cons_append, regroup_line, ih]

theorem regroup_rows (rows : List (List Text)) {fs : List Fragment} (h : (regroup fs).1 = []) :
    regroup (rows.map .row ++ fs) = (rows.map .row, (regroup fs).2) := by
  induction rows with
  | nil => rw [List.map_nil, List.nil_append, ← h]
  | cons cells rows ih => rw [List.map_cons, List.cons_append, regroup, ih]

theorem source_lines (kind : Container) (texts : List Text) : (texts.map (lineOf kind)).filterMap source? = texts := by
  have hsource : source? ∘ lineOf kind = some := by
    funext text
    cases kind <;> rfl
  rw [List.filterMap_map, hsource, List.filterMap_some]

theorem cells_rows (rows : List (List Text)) : (rows.map Fragment.row).filterMap cells? = rows := by
  have hcells : cells? ∘ Fragment.row = some := rfl
  rw [List.filterMap_map, hcells, List.filterMap_some]

theorem regroup_block (b : Block) {fs : List Fragment} (h : (regroup fs).1 = []) :
    regroup (b.fragments ++ fs) = ([], [b].filter (·.runKind?.isSome) ++ (regroup fs).2) := by
  cases b with
  | run kind first more =>
    have hend : regroup (.containerEnd kind :: fs) = regroup fs := rfl
    rw [Block.fragments, List.cons_append, List.cons_append, List.append_assoc, List.singleton_append, regroup,
      regroup_lines kind _ (hend ▸ h), hend]
    simp only [source_lines]
    rfl
  | table columns first more =>
    have hend : regroup (.tableEnd :: fs) = regroup fs := rfl
    rw [Block.fragments, List.cons_append, List.cons_append, List.append_assoc, List.singleton_append, regroup,
      regroup_rows _ (hend ▸ h), hend]
    simp only [cells_rows]
    rfl
  | screen lines =>
    have hpassive : (Block.screen lines).fragments.all isPassive = true := by
      simp [Block.fragments, isPassive]
    rw [regroup_passive hpassive, ← h]
    rfl
  | graphic fileref =>
    rw [← h]
    rfl

theorem regroup_blocks (bs : List Block) {fs : List Fragment} (h : (regroup fs).1 = []) :
    regroup (bs.flatMap Block.fragments ++ fs) = ([], bs.filter (·.runKind?.isSome) ++ (regroup fs).2) := by
  induction bs with
  | nil => rw [List.flatMap_nil, List.nil_append, ← h]; rfl
  | cons b bs ih =>
    rw [List.flatMap_cons, List.append_assoc, regroup_block b (by rw [ih]), ih, ← List.append_assoc,
      ← List.filter_append, List.singleton_append]

theorem regroup_ending (k : Nat) (next : Outline) (fs : List Fragment) :
    regroup (next.ending k :: fs) = regroup fs := by
  cases next <;> rfl

theorem regroup_outline (o : Outline) (k : Nat) {fs : List Fragment} (h : (regroup fs).1 = []) :
    regroup (o.fragments k ++ fs) = ([], o.blocks.filter (·.runKind?.isSome) ++ (regroup fs).2) := by
  induction o generalizing k fs with
  | nil => rw [Outline.fragments, List.nil_append, ← h]; rfl
  | titled title blocks inside next hinside hnext =>
    have hnext := hnext k h
    have hrest : (regroup (next.ending k :: (next.fragments k ++ fs))).1 = [] := by rw [regroup_ending, hnext]
    have hinside := hinside (k + 1) hrest
    have hopening : [Fragment.sectionStart k, .title title].all isPassive = true := rfl
    have hfragments : (Outline.titled title blocks inside next).fragments k ++ fs =
        [.sectionStart k, .title title] ++ (blocks.flatMap Block.fragments
          ++ (inside.fragments (k + 1) ++ next.ending k :: (next.fragments k ++ fs))) := by
      simp [Outline.fragments]
    rw [hfragments, regroup_passive hopening, regroup_blocks blocks (by rw [hinside]), hinside, regroup_ending, hnext,
      Outline.blocks]
    simp only [List.filter_append, List.append_assoc]
  | skipped inside next hinside hnext =>
    have hnext := hnext k h
    have hrest : (regroup (next.ending k :: (next.fragments k ++ fs))).1 = [] := by rw [regroup_ending, hnext]
    have hfragments : (Outline.skipped inside next).fragments k ++ fs =
        [.sectionStart k] ++ (inside.fragments (k + 1) ++ next.ending k :: (next.fragments k ++ fs)) := by
      simp [Outline.fragments]
    have hopening : [Fragment.sectionStart k].all isPassive = true := rfl
    rw [hfragments, regroup_passive hopening, hinside (k + 1) hrest, regroup_ending, hnext, Outline.blocks]
    simp only [List.filter_append, List.append_assoc]

theorem regroup_tree (t : Tree) : regroup t.fragments = ([], t.allBlocks.filter (·.runKind?.isSome)) := by
  have hsections := @regroup_outline t.sections 1 [] rfl
  rw [List.append_nil] at hsections
  rw [Tree.fragments, regroup_blocks t.blocks (by rw [hsections]), hsections, Tree.allBlocks, List.filter_append,
    regroup, List.append_nil]

/-! ### Blocks of lines -/

/-- The kind of the run that is open in a context. -/
def openKind? (c : Context) : Option RunKind :=
  match c.container with
  | some kind => some (.container kind)
  | none => if c.inTable then some .table else none

/-- What a line of an open run is written as, where `columns` columns are open. -/
def fragmentIn (columns : Nat) : RunKind → Text → Fragment
  | .container kind, line => lineOf kind (Run.textIn kind line)
  | .table, line => .row (Row.cells columns line)

/-- What some lines, with the kinds of their runs, should be regrouped to in a context: first what goes on with the
    open run, and then the blocks of the other runs. -/
def awaited (c : Context) (ks : List (Option RunKind × Text)) : List Fragment × List Block :=
  match openKind? c with
  | none => ([], (runsOf ks).map Run.block)
  | some kind => ((ks.takeWhile fun k => k.1 == some kind).map fun k => fragmentIn c.columns kind k.2,
      (runsOf (ks.dropWhile fun k => k.1 == some kind)).map Run.block)

section Awaited

variable {c c' : Context} {fs : List Fragment} {ks : List (Option RunKind × Text)}

theorem awaited_of_closed (h : openKind? c = none) : awaited c ks = ([], (runsOf ks).map Run.block) := by
  rw [awaited, h]

theorem awaited_none (c : Context) (line : Text) (ks : List (Option RunKind × Text)) :
    awaited c ((none, line) :: ks) = ([], (runsOf ks).map Run.block) := by
  cases hopen : openKind? c with
  | none => rw [awaited_of_closed hopen, runsOf_none]
  | some kind =>
    rw [awaited, hopen]
    simp only [List.takeWhile_cons_of_neg, List.dropWhile_cons_of_neg, reduceCtorEq, beq_iff_eq, not_false_eq_true,
      runsOf_none, List.map_nil]

theorem awaited_other {kind : RunKind} (h : openKind? c ≠ some kind) (line : Text) (ks : List (Option RunKind × Text)) :
    awaited c ((some kind, line) :: ks) = ([], (runsOf ((some kind, line) :: ks)).map Run.block) := by
  cases hopen : openKind? c with
  | none => rw [awaited_of_closed hopen]
  | some other =>
    have hne : some kind ≠ some other := fun e => h (by rw [hopen, e])
    rw [awaited, hopen]
    simp only [List.takeWhile_cons_of_neg, List.dropWhile_cons_of_neg, beq_iff_eq, hne, not_false_eq_true, List.map_nil]

theorem awaited_same {kind : RunKind} (h : openKind? c = some kind) (line : Text) (ks : List (Option RunKind × Text)) :
    awaited c ((some kind, line) :: ks) = (fragmentIn c.columns kind line :: (awaited c ks).1, (awaited c ks).2) := by
  simp only [awaited, h, List.takeWhile_cons_of_pos, List.dropWhile_cons_of_pos, beq_self_eq_true, List.map_cons]

/-- A line that belongs to no run writes nothing of one, and leaves none open. -/
theorem regroup_none {ps : List Fragment} (hps : ps.all isPassive = true) (hclosed : openKind? c' = none)
    (h : regroup fs = awaited c' ks) (line : Text) : regroup (ps ++ fs) = awaited c ((none, line) :: ks) := by
  rw [regroup_passive hps, h, awaited_of_closed hclosed, awaited_none]

/-- The first line of a run begins its block. -/
theorem regroup_first_line {d : Nat} {kind : Container} (h : regroup fs = awaited (outside d (some kind)) ks)
    (line : Text) : regroup (.containerStart kind :: lineOf kind (Run.textIn kind line) :: fs) =
      ([], (runsOf ((some (.container kind), line) :: ks)).map Run.block) := by
  have hawaited : awaited (outside d (some kind)) ks =
      ((((ks.takeWhile fun k => k.1 == some (.container kind)).map Prod.snd).map (Run.textIn kind)).map (lineOf kind),
        (runsOf (ks.dropWhile fun k => k.1 == some (.container kind))).map Run.block) := by
    rw [List.map_map, List.map_map]
    rfl
  rw [regroup, regroup_line, h, hawaited]
  simp only [← List.map_cons, source_lines]
  rw [runsOf_some]
  rfl

theorem regroup_first_row {d : Nat} {line : Text} (h : regroup fs = awaited ⟨d, none, false, Row.columns line⟩ ks) :
    regroup (.tableStart (Row.columns line) :: .row (Row.cells (Row.columns line) line) :: fs) =
      ([], (runsOf ((some .table, line) :: ks)).map Run.block) := by
  have hopen : openKind? ⟨d, none, false, Row.columns line⟩ = some .table :=
    if_pos (decide_eq_true (Row.one_le_columns line))
  have hawaited : awaited ⟨d, none, false, Row.columns line⟩ ks =
      ((((ks.takeWhile fun k => k.1 == some .table).map Prod.snd).map (Row.cells (Row.columns line))).map .row,
        (runsOf (ks.dropWhile fun k => k.1 == some .table)).map Run.block) := by
    rw [List.map_map, List.map_map, awaited, hopen]
    rfl
  rw [regroup, regroup, h, hawaited]
  simp only [← List.map_cons, cells_rows]
  rw [runsOf_some]
  rfl

/-! ### Steps -/

theorem isPassive_ends (o : Option Container) : (o.toList.map Fragment.containerEnd).all isPassive = true := by
  cases o <;> rfl

theorem isPassive_ends_append (o : Option Container) {ps : List Fragment} (h : ps.all isPassive = true) :
    (o.toList.map Fragment.containerEnd ++ ps).all isPassive = true := by
  rw [List.all_append, isPassive_ends, h, Bool.and_true]

theorem written_setContainer_none (d : Nat) (o : Option Container) :
    ((outside d o).setContainer none).written = o.toList.map .containerEnd := by
  cases o <;> rfl

theorem regroup_writeIn {d : Nat} (o : Option Container) (kind : Container) (line : Text)
    (h : regroup fs = awaited (outside d (some kind)) ks) :
    regroup (((outside d o).writeIn kind (lineOf kind (Run.textIn kind line))).written ++ fs) =
      awaited (outside d o) ((some (.container kind), line) :: ks) := by
  by_cases ho : o = some kind
  · subst ho
    have hwritten : ((outside d (some kind)).writeIn kind (lineOf kind (Run.textIn kind line))).written =
        [lineOf kind (Run.textIn kind line)] := by
      simp [Context.writeIn, Context.setContainer, outside, Step.stay]
    rw [hwritten, List.singleton_append, regroup_line, h, awaited_same rfl]
    rfl
  · have hwritten : ((outside d o).writeIn kind (lineOf kind (Run.textIn kind line))).written =
        o.toList.map .containerEnd ++ [.containerStart kind, lineOf kind (Run.textIn kind line)] := by
      simp [Context.writeIn, Context.setContainer, outside, ho]
    have hother : openKind? (outside d o) ≠ some (.container kind) := by
      cases o with
      | none => exact (Option.some_ne_none _).symm
      | some other => simpa [openKind?, outside] using ho
    rw [hwritten, List.append_assoc, regroup_passive (isPassive_ends o), awaited_other hother]
    exact regroup_first_line h line

theorem kindOf_of_ne {line : Text} (h : Line.ofText line ≠ .comment) : kindOf false line = [(runKind? line, line)] := by
  have hcomment : isComment line = false := by
    rw [← Bool.not_eq_true]
    exact fun e => h (ofText_comment_iff.mpr e)
  rw [kindOf, hcomment]
  rfl

theorem regroup_plainLine (base : Option Text) (line : Text) {d : Nat} (o : Option Container)
    (h : regroup fs = awaited ((outside d o).plainLine base line).context ks) :
    regroup (((outside d o).plainLine base line).written ++ fs) = awaited (outside d o) (kindOf false line ++ ks) := by
  have hkind : Line.ofText line ≠ .comment → kindOf false line ++ ks = (runKind? line, line) :: ks := fun hne => by
    rw [kindOf_of_ne hne, List.singleton_append]
  unfold Context.plainLine at h ⊢
  cases hline : Line.ofText line with
  | blank =>
    rw [hkind (by simp [hline]), runKind?, hline]
    simp only [hline, context_setContainer, written_setContainer_none] at h ⊢
    exact regroup_none (isPassive_ends o) rfl h line
  | comment =>
    rw [kindOf, ofText_comment_iff.mp hline]
    simp only [hline] at h ⊢
    exact h
  | fence side =>
    rw [hkind (by simp [hline]), runKind?, hline]
    cases side with
    | opening =>
      simp only [hline, Context.openLiteral, Step.context_andThen, Step.written_andThen, context_setContainer,
        written_setContainer_none] at h ⊢
      exact regroup_none (isPassive_ends_append o rfl) rfl h line
    | closing =>
      simp only [hline] at h ⊢
      rw [context_writeIn] at h
      exact regroup_writeIn o .paragraph line h
  | heading level title =>
    obtain ⟨h1, -⟩ := level_of_heading hline
    rw [hkind (by simp [hline]), runKind?, hline]
    simp only [hline, openSection_outside o title h1, written_setContainer_none] at h ⊢
    refine regroup_none ?_ rfl h line
    rw [List.append_assoc]
    exact isPassive_ends_append o (by split <;> simp [isPassive])
  | row =>
    rw [hkind (by simp [hline]), runKind?, hline]
    simp only [hline, Context.openTable, Context.addRow, Step.context_andThen, Step.written_andThen,
      context_setContainer, written_setContainer_none] at h ⊢
    rw [List.append_assoc, regroup_passive (isPassive_ends o)]
    refine (regroup_first_row h).trans (awaited_other ?_ line ks).symm
    cases o <;> simp [openKind?, outside, Context.inTable]
  | picture url =>
    rw [hkind (by simp [hline]), runKind?, hline]
    simp only [hline, Context.writeAlone, Step.context_andThen, Step.written_andThen, context_setContainer,
      written_setContainer_none] at h ⊢
    exact regroup_none (isPassive_ends_append o rfl) rfl h line
  | item kind text =>
    rw [hkind (by simp [hline]), runKind?, hline]
    simp only [hline] at h ⊢
    rw [context_writeIn] at h
    have := regroup_writeIn o (.list kind) line h
    rw [Run.textIn, Line.text?_of_item hline] at this
    exact this
  | prose =>
    rw [hkind (by simp [hline]), runKind?, hline]
    simp only [hline] at h ⊢
    rw [context_writeIn] at h
    exact regroup_writeIn o .paragraph line h

theorem ofText_row_of_runKind {line : Text} (h : runKind? line = some .table) : Line.ofText line = .row := by
  unfold runKind? at h
  split at h <;> first | assumption | cases h

theorem regroup_tableLine (base : Option Text) (line : Text) {d n : Nat}
    (h : regroup fs = awaited (Context.tableLine base line ⟨d, none, false, n + 1⟩).context ks) :
    regroup ((Context.tableLine base line ⟨d, none, false, n + 1⟩).written ++ fs) =
      awaited ⟨d, none, false, n + 1⟩ (kindOf false line ++ ks) := by
  have hopen : openKind? ⟨d, none, false, n + 1⟩ = some .table := rfl
  -- A line that ends the table is of another kind, so nothing is awaited of the open run.
  have hplain (hrow : Line.ofText line ≠ .row) (hcomment : Line.ofText line ≠ .comment)
      (h : regroup fs = awaited ((outside d none).plainLine base line).context ks) :
      regroup (.tableEnd :: ((outside d none).plainLine base line).written ++ fs) =
        awaited ⟨d, none, false, n + 1⟩ (kindOf false line ++ ks) := by
    have hend : regroup (.tableEnd :: ((outside d none).plainLine base line).written ++ fs) =
        regroup (((outside d none).plainLine base line).written ++ fs) := rfl
    rw [hend, regroup_plainLine base line none h, kindOf_of_ne hcomment, List.singleton_append, awaited_of_closed rfl]
    cases hkind : runKind? line with
    | none => rw [awaited_none, runsOf_none]
    | some kind =>
      refine (awaited_other ?_ line ks).symm
      intro htable
      rw [hopen] at htable
      obtain rfl := Option.some_inj.mp htable
      exact hrow (ofText_row_of_runKind hkind)
  unfold Context.tableLine at h ⊢
  cases hline : Line.ofText line with
  | row =>
    simp only [hline, Context.addRow] at h ⊢
    rw [kindOf_of_ne (by simp [hline]), runKind?, hline, List.singleton_append, List.singleton_append, regroup, h,
      awaited_same hopen]
    rfl
  | comment =>
    rw [kindOf, ofText_comment_iff.mp hline]
    simp only [hline] at h ⊢
    exact h
  | _ =>
    simp only [hline] at h ⊢
    exact hplain (by simp [hline]) (by simp [hline]) h

theorem regroup_literalLine (line : Text) {d : Nat}
    (h : regroup fs = awaited (Context.literalLine line ⟨d, none, true, 0⟩).context ks) :
    regroup ((Context.literalLine line ⟨d, none, true, 0⟩).written ++ fs) =
      awaited ⟨d, none, true, 0⟩ (kindOf true line ++ ks) := by
  rw [kindOf, if_pos rfl, List.singleton_append]
  unfold Context.literalLine at h ⊢
  split at h
  · rename_i hcloses
    rw [if_pos hcloses]
    exact regroup_none (by simp [Context.closeLiteral, isPassive]) rfl h line
  · rename_i hcloses
    rw [if_neg hcloses]
    exact regroup_none (by simp [isPassive]) rfl h line

theorem regroup_push (base : Option Text) (line : Text) (hc : Single c)
    (h : regroup fs = awaited (Context.push base line c).context ks) :
    regroup ((Context.push base line c).written ++ fs) = awaited c (kindOf c.inLiteral (Text.trimEnd line) ++ ks) := by
  cases hc with
  | outside d o => exact regroup_plainLine base (Text.trimEnd line) o h
  | table d n => exact regroup_tableLine base (Text.trimEnd line) h
  | literal d => exact regroup_literalLine (Text.trimEnd line) h

end Awaited

theorem awaited_nil (c : Context) : awaited c [] = ([], []) := by
  unfold awaited
  cases openKind? c <;> rfl

theorem regroup_finish {c : Context} (hc : Single c) : regroup (finish c).written = awaited c [] := by
  have hall (d : Nat) (o : Option Container) : (outside d o).closeAll.written.all isPassive = true := by
    rw [Context.closeAll, Step.written_andThen, context_setContainer, written_setContainer_none]
    exact isPassive_ends_append o (by simp [Context.closeDeeper, isPassive])
  have hpassive : (finish c).written.all isPassive = true := by
    cases hc with
    | outside d o => exact hall d o
    | table d n => exact hall d none
    | literal d => exact hall d none
  rw [← List.append_nil (finish c).written, regroup_passive hpassive, awaited_nil]
  rfl

/-- What some lines write is regrouped to what goes on with the open run, and the blocks of the other runs. -/
theorem regroup_lines_finish (base : Option Text) (lines : List Text) {c : Context} (hc : Single c) :
    regroup ((pushAll base lines c).andThen finish).written =
      awaited c (kinds c.inLiteral (lines.map Text.trimEnd)) := by
  induction lines generalizing c with
  | nil => exact regroup_finish hc
  | cons line lines ih =>
    obtain ⟨hsingle, -⟩ := place_push base line hc
    have hrest := ih hsingle
    rw [context_push base line hc, inLiteral_behind] at hrest
    rw [← context_push base line hc] at hrest
    have := regroup_push base line hc hrest
    simpa [pushAll_cons, kinds] using this

/-- The blocks of a body that hold lines of text, items or rows are those of the runs of its lines. -/
theorem exists_tree_runs (base : Option Text) (lines : List Text) : ∃ t : Tree, t.Good ∧
    fragments base lines = t.fragments ∧
    t.allBlocks.filter (·.runKind?.isSome) = (runs (lines.map Text.trimEnd)).map Run.block := by
  obtain ⟨t, hgood, hfragments, -⟩ := exists_tree base lines
  have hlines := regroup_lines_finish base lines (Single.outside 0 none)
  have hwritten : ((pushAll base lines (outside 0 none)).andThen finish).written = t.fragments := hfragments
  rw [hwritten, regroup_tree] at hlines
  exact ⟨t, hgood, hfragments, congrArg Prod.snd hlines⟩

end Body
end WikiArticle
