import WikiArticle.Article
import WikiArticle.Proofs.Body.OpenElements
import WikiArticle.Proofs.Body.Tree

/-! The grammar of bodies. A body is blocks and then sections; a section holds a title, blocks and deeper
    sections, or nothing but deeper sections. The tree of every body is written in this grammar. -/

namespace WikiArticle
namespace Body
open Inline Fragment

/-! ### The grammar -/

/-- The text of a row with the marked-up cells. -/
def rowText (cells : List Text) : Text :=
  "<row> ".toList ++ cells.flatMap (fun cell => "<entry>".toList ++ cell ++ "</entry> ".toList) ++ "</row>\n".toList

/-- One block from its start tag to its end tag, with the line feed behind it. -/
inductive IsBlock : Text → Prop
  | para {lines : List Text} : lines ≠ [] → (∀ line ∈ lines, IsInline line) →
      IsBlock ("<para> ".toList ++ lines.flatMap (fun line => line ++ ['\n']) ++ "</para>\n".toList)
  | list (kind : ListKind) {items : List Text} : items ≠ [] → (∀ item ∈ items, IsInline item) →
      IsBlock (WikiArticle.startTag (Container.list kind).name ++ [' ']
        ++ items.flatMap (fun item => "<listitem><para>".toList ++ item ++ "</para></listitem>\n".toList)
        ++ WikiArticle.endTag (Container.list kind).name ++ ['\n'])
  | table {columns : Nat} {rows : List (List Text)} : 1 ≤ columns → rows ≠ [] →
      (∀ cells ∈ rows, cells.length = columns ∧ ∀ cell ∈ cells, IsInline cell) →
      IsBlock ("<table frame='all'><title></title> <tgroup cols='".toList ++ decimal columns
        ++ "' align='left' colsep='1' rowsep='1'> <tbody>\n".toList ++ rows.flatMap rowText
        ++ "</tbody></tgroup></table>\n".toList)
  | screen {lines : List Text} : (∀ line ∈ lines, Escaped line) →
      IsBlock ("<screen>\n".toList ++ lines.flatMap (fun line => line ++ ['\n']) ++ "</screen>\n".toList)
  | graphic {fileref : Text} : Escaped fileref →
      IsBlock ("<graphic fileref=\"".toList ++ fileref ++ "\"></graphic>\n".toList)

/-- Blocks one after the other, if there are any. -/
inductive AreBlocks : Text → Prop
  | nil : AreBlocks []
  | cons {b t : Text} : IsBlock b → AreBlocks t → AreBlocks (b ++ t)

mutual

/-- A section of level `k`, from its start tag to its end tag. -/
inductive IsSection : Nat → Text → Prop
  | titled {k : Nat} {title blocks inside : Text} : 1 ≤ k → k ≤ 3 → IsInline title → AreBlocks blocks →
      AreSections (k + 1) inside →
      IsSection k (WikiArticle.startTag (sectionName k) ++ " <title>".toList ++ title ++ "</title>\n".toList
        ++ blocks ++ inside ++ WikiArticle.endTag (sectionName k))
  | skipped {k : Nat} {inside : Text} : 1 ≤ k → k ≤ 3 → AreSections (k + 1) inside → inside ≠ [] →
      IsSection k (WikiArticle.startTag (sectionName k) ++ [' '] ++ inside ++ WikiArticle.endTag (sectionName k))

/-- Sections of level `k`, one after the other on one line, if there are any. -/
inductive AreSections : Nat → Text → Prop
  | nil {k : Nat} : AreSections k []
  | last {k : Nat} {t : Text} : IsSection k t → AreSections k (t ++ ['\n'])
  | cons {k : Nat} {t u : Text} : IsSection k t → AreSections k u → u ≠ [] → AreSections k (t ++ ' ' :: u)

end

/-- Blocks, and then sections of the first level. -/
def IsBody (t : Text) : Prop := ∃ blocks sections, t = blocks ++ sections ∧ AreBlocks blocks ∧ AreSections 1 sections

/-! ### Blocks -/

theorem textOf_singleton (f : Fragment) : textOf [f] = f.text := by rw [textOf_cons, textOf_nil, List.append_nil]

theorem text_lineOf_paragraph (line : Text) : (lineOf .paragraph line).text = markUp line ++ ['\n'] :=
  text_paragraphLine line

theorem text_lineOf_list (kind : ListKind) (line : Text) : (lineOf (.list kind) line).text =
    "<listitem><para>".toList ++ markUp line ++ "</para></listitem>\n".toList :=
  text_item line

theorem flatMap_markUp (lines : List Text) (g : Text → Text) :
    (lines.flatMap fun line => g (markUp line)) = (lines.map markUp).flatMap g := by
  rw [List.flatMap_map]

theorem forall_isInline (lines : List Text) : ∀ t ∈ lines.map markUp, IsInline t := by
  intro t ht
  obtain ⟨line, -, rfl⟩ := List.mem_map.mp ht
  exact isInline_markUp line

theorem text_row_markUp (cells : List Text) : (row cells).text = rowText (cells.map markUp) := by
  have hrow : rowText (cells.map markUp) = "<row> ".toList
      ++ (cells.map markUp).flatMap (fun cell => "<entry>".toList ++ cell ++ "</entry> ".toList)
      ++ "</row>\n".toList := rfl
  rw [hrow, List.flatMap_map, text_row]

theorem isBlock_fragments {b : Block} (hb : b.Good) : IsBlock (textOf b.fragments) := by
  cases b with
  | run kind first more =>
    have htext : textOf (Block.run kind first more).fragments = (containerStart kind).text
        ++ ((first :: more).flatMap fun line => (lineOf kind line).text) ++ (containerEnd kind).text := by
      rw [Block.fragments, List.cons_append, textOf_cons, textOf_append, textOf_map, textOf_singleton,
        ← List.append_assoc]
    rw [htext, text_containerStart, text_containerEnd]
    cases kind with
    | paragraph =>
      simp only [text_lineOf_paragraph]
      rw [flatMap_markUp (first :: more) fun line => line ++ ['\n']]
      exact IsBlock.para (by simp) (forall_isInline _)
    | list kind =>
      simp only [text_lineOf_list]
      rw [flatMap_markUp (first :: more) fun item =>
        "<listitem><para>".toList ++ item ++ "</para></listitem>\n".toList]
      have hne : (first :: more).map markUp ≠ [] := by simp
      simpa only [List.append_assoc] using IsBlock.list kind hne (forall_isInline (first :: more))
  | table columns first more =>
    obtain ⟨hcolumns, hcells⟩ := hb
    have htext : textOf (Block.table columns first more).fragments = (tableStart columns).text
        ++ ((first :: more).map fun cells => cells.map markUp).flatMap rowText ++ tableEnd.text := by
      rw [Block.fragments, List.cons_append, textOf_cons, textOf_append, textOf_map, textOf_singleton,
        ← List.append_assoc, List.flatMap_map]
      simp only [text_row_markUp]
    rw [htext, text_tableStart, text_tableEnd]
    refine IsBlock.table hcolumns (by simp) fun marked hmarked => ?_
    obtain ⟨cells, hmem, rfl⟩ := List.mem_map.mp hmarked
    exact ⟨by rw [List.length_map, hcells cells hmem], forall_isInline cells⟩
  | screen lines =>
    have htext : textOf (Block.screen lines).fragments =
        screenStart.text ++ (lines.map escape).flatMap (fun line => line ++ ['\n']) ++ screenEnd.text := by
      rw [Block.fragments, List.cons_append, textOf_cons, textOf_append, textOf_map, textOf_singleton,
        ← List.append_assoc, List.flatMap_map]
      simp only [text_screenLine]
    rw [htext, text_screenStart, text_screenEnd]
    refine IsBlock.screen fun t ht => ?_
    obtain ⟨line, -, rfl⟩ := List.mem_map.mp ht
    exact escaped_escape line
  | graphic fileref =>
    rw [Block.fragments, textOf_singleton, text_graphic]
    exact IsBlock.graphic (escaped_escape fileref)

theorem areBlocks_fragments {bs : List Block} (hbs : ∀ b ∈ bs, b.Good) :
    AreBlocks (textOf (bs.flatMap Block.fragments)) := by
  induction bs with
  | nil => exact AreBlocks.nil
  | cons b bs ih =>
    rw [List.flatMap_cons, textOf_append]
    exact AreBlocks.cons (isBlock_fragments (hbs b List.mem_cons_self)) (ih fun b hb => hbs b (List.mem_cons_of_mem _ hb))

/-! ### Sections -/

/-- The text of a section, and of what ends it before the sections `next`. -/
theorem textOf_ending (k : Nat) (next : Outline) : textOf (next.ending k :: next.fragments k) =
    WikiArticle.endTag (sectionName k) ++ (if next = .nil then ['\n'] else [' ']) ++ textOf (next.fragments k) := by
  rw [textOf_cons]
  cases next with
  | nil => rw [Outline.ending, text_sectionEnd, if_pos rfl]
  | titled => simp [Outline.ending, text_sectionTurn]
  | skipped => simp [Outline.ending, text_sectionTurn]

theorem textOf_fragments_ne_nil (k : Nat) {sections : Outline} (h : sections ≠ .nil) :
    textOf (sections.fragments k) ≠ [] := by
  cases sections with
  | nil => exact absurd rfl h
  | titled title blocks inside next => simp [Outline.fragments, textOf_cons, text_sectionStart]
  | skipped inside next => simp [Outline.fragments, textOf_cons, text_sectionStart]

theorem areSections_append {k : Nat} {t : Text} {next : Outline} (ht : IsSection k t)
    (hnext : AreSections k (textOf (next.fragments k))) :
    AreSections k (t ++ (if next = .nil then ['\n'] else [' ']) ++ textOf (next.fragments k)) := by
  split
  · rename_i hnil
    subst hnil
    rw [Outline.fragments, textOf_nil, List.append_nil]
    exact AreSections.last ht
  · rename_i hne
    rw [List.append_assoc]
    exact AreSections.cons ht hnext (textOf_fragments_ne_nil k hne)

theorem areSections_fragments {sections : Outline} {k : Nat} (hk : 1 ≤ k) (h : sections.Good k) :
    AreSections k (textOf (sections.fragments k)) := by
  induction sections generalizing k with
  | nil => exact AreSections.nil
  | titled title blocks inside next hinside hnext =>
    obtain ⟨hk3, hblocks, hgood, hgood', -⟩ := h
    have hsection := IsSection.titled hk hk3 (isInline_markUp title) (areBlocks_fragments hblocks)
      (hinside (by omega) hgood)
    have hspace : " <title>".toList = [' '] ++ "<title>".toList := rfl
    have := areSections_append hsection (hnext hk hgood')
    rw [hspace] at this
    rw [Outline.fragments, textOf_cons, textOf_cons, textOf_append, textOf_append, textOf_ending, text_sectionStart,
      text_title]
    simpa only [List.append_assoc] using this
  | skipped inside next hinside hnext =>
    obtain ⟨hk3, hne, hgood, hgood', -⟩ := h
    have hsection := IsSection.skipped hk hk3 (hinside (by omega) hgood) (textOf_fragments_ne_nil (k + 1) hne)
    have := areSections_append hsection (hnext hk hgood')
    rw [Outline.fragments, textOf_cons, textOf_append, textOf_ending, text_sectionStart]
    simpa only [List.append_assoc] using this

theorem isBody_fragments {t : Tree} (h : t.Good) : IsBody (textOf t.fragments) := by
  obtain ⟨hblocks, hsections⟩ := h
  refine ⟨_, _, ?_, areBlocks_fragments hblocks, areSections_fragments (Nat.le_refl 1) hsections⟩
  rw [Tree.fragments, textOf_append]

end Body
end WikiArticle
