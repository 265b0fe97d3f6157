import WikiArticle.Proofs.Body.Grammar
import WikiArticle.Proofs.Text.Occurrence

/-! Nothing in a body looks like a tag or an entity and is none: in every text of the grammar the reserved
    characters stand only where the generated tags begin and end and where entities begin. -/

namespace WikiArticle
namespace Body
open Inline Text

/-! ### Generated tags -/

/-- The tags that are the same wherever they stand. -/
def fixedTags : List Text :=
  ["<para>".toList, "</para>".toList, "<itemizedlist>".toList, "</itemizedlist>".toList, "<orderedlist>".toList,
    "</orderedlist>".toList, "<listitem>".toList, "</listitem>".toList, "<table frame='all'>".toList,
    "</table>".toList, "</tgroup>".toList, "<tbody>".toList, "</tbody>".toList, "<row>".toList, "</row>".toList,
    "<entry>".toList, "</entry>".toList, "<title>".toList, "</title>".toList, "<screen>".toList,
    "</screen>".toList, "</graphic>".toList, "</ulink>".toList, "<emphasis role=\"bold\">".toList,
    "<emphasis>".toList, "</emphasis>".toList, "<literal>".toList, "</literal>".toList, "<sect1>".toList,
    "</sect1>".toList, "<sect2>".toList, "</sect2>".toList, "<sect3>".toList, "</sect3>".toList]

/-- These tags and the white space between tags. -/
def fixedParts : List Text := [' '] :: ['\n'] :: fixedTags

/-- The tags that bodies are written with. -/
inductive IsTag : Text → Prop
  | fixed {t : Text} : t ∈ fixedTags → IsTag t
  | columns (n : Nat) :
      IsTag ("<tgroup cols='".toList ++ decimal n ++ "' align='left' colsep='1' rowsep='1'>".toList)
  | graphic {fileref : Text} : Escaped fileref → IsTag ("<graphic fileref=\"".toList ++ fileref ++ "\">".toList)
  | ulink {url : Text} : Escaped url → IsTag ("<ulink url=\"".toList ++ url ++ "\">".toList)

/-- Every `<` begins a generated tag, every `>` ends one, and every `&` begins an entity. -/
structure Tidy (t : Text) : Prop where
  lt : Begins '<' IsTag t
  gt : Ends '>' IsTag t
  amp : Begins '&' (· ∈ entities) t

theorem Tidy.append {t u : Text} (ht : Tidy t) (hu : Tidy u) : Tidy (t ++ u) :=
  ⟨ht.lt.append hu.lt, ht.gt.append hu.gt, ht.amp.append hu.amp⟩

theorem tidy_of_notMem {t : Text} (h : ∀ c ∈ reserved, c ∉ t) : Tidy t :=
  ⟨begins_of_notMem (h '<' (by decide)), ends_of_notMem (h '>' (by decide)), begins_of_notMem (h '&' (by decide))⟩

theorem tidy_nil : Tidy [] := tidy_of_notMem (by simp)

theorem tidy_entity {e : Text} (he : e ∈ entities) : Tidy e := by
  have hshape : ∀ e ∈ entities, e = '&' :: e.tail ∧ '&' ∉ e.tail ∧ '<' ∉ e ∧ '>' ∉ e := by decide
  obtain ⟨hcons, hamp, hlt, hgt⟩ := hshape e he
  refine ⟨begins_of_notMem hlt, ends_of_notMem hgt, ?_⟩
  rw [hcons] at he ⊢
  exact begins_cons he hamp

theorem tidy_escaped {t : Text} (h : Escaped t) : Tidy t := by
  induction h with
  | nil => exact tidy_nil
  | char hc _ ih =>
    refine Tidy.append (t := [_]) (tidy_of_notMem fun a ha hmem => ?_) ih
    obtain rfl := List.mem_singleton.mp hmem
    exact hc ha
  | entity he _ ih => exact (tidy_entity he).append ih

/-! ### Tags are tidy -/

theorem tidy_bracket {w : Text} (h : IsTag ('<' :: w ++ ['>'])) (hlt : '<' ∉ w) (hgt : '>' ∉ w)
    (hamp : Begins '&' (· ∈ entities) w) : Tidy ('<' :: w ++ ['>']) := by
  refine ⟨begins_cons h ?_, ends_concat h ?_, ?_⟩
  · simpa using hlt
  · simpa using hgt
  · have hfirst : Begins '&' (· ∈ entities) ['<'] := begins_of_notMem (by decide)
    have hlast : Begins '&' (· ∈ entities) ['>'] := begins_of_notMem (by decide)
    exact hfirst.append (hamp.append hlast)

theorem tidy_fixed {t : Text} (ht : t ∈ fixedTags) : Tidy t := by
  have hshape : ∀ t ∈ fixedTags, t = '<' :: t.tail.dropLast ++ ['>'] ∧
      reserved.all (fun c => decide (c ∉ t.tail.dropLast)) = true := by
    decide
  obtain ⟨hcons, hall⟩ := hshape t ht
  have hfree : ∀ c ∈ reserved, c ∉ t.tail.dropLast := forall_of_all hall
  rw [hcons] at ht ⊢
  exact tidy_bracket (IsTag.fixed ht) (hfree '<' (by decide)) (hfree '>' (by decide))
    (begins_of_notMem (hfree '&' (by decide)))

/-- A tag with an attribute. -/
theorem tidy_attribute (front back : Text) {value : Text} (h : IsTag ('<' :: front ++ value ++ (back ++ ['>'])))
    (hfront : ∀ c ∈ reserved, c ∉ front) (hback : ∀ c ∈ reserved, c ∉ back) (hvalue : Escaped value) :
    Tidy ('<' :: front ++ value ++ (back ++ ['>'])) := by
  have hsplit : '<' :: front ++ value ++ (back ++ ['>']) = '<' :: (front ++ value ++ back) ++ ['>'] := by simp
  obtain ⟨hlt, hgt⟩ := lt_notMem_of_escaped hvalue
  rw [hsplit] at h ⊢
  refine tidy_bracket h ?_ ?_ ?_
  · simp only [List.mem_append, not_or]
    exact ⟨⟨hfront '<' (by decide), hlt⟩, hback '<' (by decide)⟩
  · simp only [List.mem_append, not_or]
    exact ⟨⟨hfront '>' (by decide), hgt⟩, hback '>' (by decide)⟩
  · exact ((begins_of_notMem (hfront '&' (by decide))).append (tidy_escaped hvalue).amp).append
      (begins_of_notMem (hback '&' (by decide)))

theorem escaped_of_notMem {t : Text} (h : ∀ c ∈ reserved, c ∉ t) : Escaped t := by
  induction t with
  | nil => exact Escaped.nil
  | cons a t ih =>
    refine Escaped.char (fun ha => h a ha List.mem_cons_self) (ih fun c hc hmem => ?_)
    exact h c hc (List.mem_cons_of_mem _ hmem)

theorem tidy_columns (n : Nat) :
    Tidy ("<tgroup cols='".toList ++ decimal n ++ "' align='left' colsep='1' rowsep='1'>".toList) := by
  have hdigit : ∀ c ∈ reserved, c.isDigit = false := Text.forall_of_all (by decide)
  exact tidy_attribute "tgroup cols='".toList "' align='left' colsep='1' rowsep='1'".toList (IsTag.columns n)
    (forall_of_all (by decide)) (forall_of_all (by decide)) (escaped_of_notMem fun c hc => Fragment.notMem_decimal (hdigit c hc) n)

theorem tidy_graphic {fileref : Text} (h : Escaped fileref) :
    Tidy ("<graphic fileref=\"".toList ++ fileref ++ "\">".toList) :=
  tidy_attribute "graphic fileref=\"".toList ['"'] (IsTag.graphic h) (forall_of_all (by decide))
    (forall_of_all (by decide)) h

theorem tidy_ulink {url : Text} (h : Escaped url) : Tidy ("<ulink url=\"".toList ++ url ++ "\">".toList) :=
  tidy_attribute "ulink url=\"".toList ['"'] (IsTag.ulink h) (forall_of_all (by decide))
    (forall_of_all (by decide)) h

theorem tidy_space : Tidy [' '] := tidy_of_notMem (forall_of_all (by decide))

theorem tidy_lineEnd : Tidy ['\n'] := tidy_of_notMem (forall_of_all (by decide))

theorem tidy_parts (ts : List Text) (h : ∀ t ∈ ts, t ∈ fixedParts) : Tidy ts.flatten := by
  induction ts with
  | nil => exact tidy_nil
  | cons t ts ih =>
    have ht : Tidy t := by
      rcases List.mem_cons.mp (h t List.mem_cons_self) with rfl | hmem
      · exact tidy_space
      rcases List.mem_cons.mp hmem with rfl | hmem
      · exact tidy_lineEnd
      · exact tidy_fixed hmem
    exact ht.append (ih fun u hu => h u (List.mem_cons_of_mem _ hu))

/-! ### Texts of the grammar -/

theorem tidy_inline {t : Text} (h : IsInline t) : Tidy t := by
  induction h with
  | nil => exact tidy_nil
  | @char c t hc _ ih => exact (tidy_escaped (Escaped.char hc Escaped.nil)).append ih
  | entity he _ ih => exact (tidy_entity he).append ih
  | link hurl _ _ hinside ih =>
    exact (((tidy_ulink hurl).append hinside).append (tidy_fixed (by decide))).append ih
  | span k _ _ hinside ih =>
    have hstart : k.startTag ∈ fixedTags := by cases k <;> decide
    have hend : k.endTag ∈ fixedTags := by cases k <;> decide
    exact (((tidy_fixed hstart).append hinside).append (tidy_fixed hend)).append ih

theorem tidy_flatMap {α : Type} {l : List α} {g : α → Text} (h : ∀ a ∈ l, Tidy (g a)) : Tidy (l.flatMap g) := by
  induction l with
  | nil => exact tidy_nil
  | cons a l ih =>
    rw [List.flatMap_cons]
    exact (h a List.mem_cons_self).append (ih fun b hb => h b (List.mem_cons_of_mem _ hb))

theorem tidy_row {cells : List Text} (h : ∀ cell ∈ cells, IsInline cell) : Tidy (rowText cells) := by
  have hstart : Tidy "<row> ".toList := tidy_parts ["<row>".toList, [' ']] (by decide)
  have hstop : Tidy "</row>\n".toList := tidy_parts ["</row>".toList, ['\n']] (by decide)
  have hback : Tidy "</entry> ".toList := tidy_parts ["</entry>".toList, [' ']] (by decide)
  refine (hstart.append (tidy_flatMap fun cell hcell => ?_)).append hstop
  exact ((tidy_fixed (by decide)).append (tidy_inline (h cell hcell))).append hback

theorem tidy_block {t : Text} (h : IsBlock t) : Tidy t := by
  cases h with
  | para _ hlines =>
    have hstart : Tidy "<para> ".toList := tidy_parts ["<para>".toList, [' ']] (by decide)
    have hstop : Tidy "</para>\n".toList := tidy_parts ["</para>".toList, ['\n']] (by decide)
    refine (hstart.append (tidy_flatMap fun line hline => ?_)).append hstop
    exact (tidy_inline (hlines line hline)).append tidy_lineEnd
  | list kind _ hitems =>
    have hstart : WikiArticle.startTag (Container.list kind).name ∈ fixedTags := by cases kind <;> decide
    have hstop : WikiArticle.endTag (Container.list kind).name ∈ fixedTags := by cases kind <;> decide
    have hfront : Tidy "<listitem><para>".toList := tidy_parts ["<listitem>".toList, "<para>".toList] (by decide)
    have hback : Tidy "</para></listitem>\n".toList :=
      tidy_parts ["</para>".toList, "</listitem>".toList, ['\n']] (by decide)
    refine ((((tidy_fixed hstart).append tidy_space).append (tidy_flatMap fun item hitem => ?_)).append
      (tidy_fixed hstop)).append tidy_lineEnd
    exact (hfront.append (tidy_inline (hitems item hitem))).append hback
  | @table columns rows _ _ hrows =>
    have htable : Tidy "<table frame='all'><title></title> ".toList :=
      tidy_parts ["<table frame='all'>".toList, "<title>".toList, "</title>".toList, [' ']] (by decide)
    have hbody : Tidy " <tbody>\n".toList := tidy_parts [[' '], "<tbody>".toList, ['\n']] (by decide)
    have hstop : Tidy "</tbody></tgroup></table>\n".toList :=
      tidy_parts ["</tbody>".toList, "</tgroup>".toList, "</table>".toList, ['\n']] (by decide)
    have hcells : Tidy (rows.flatMap rowText) := tidy_flatMap fun cells hmem => tidy_row (hrows cells hmem).2
    have := (((htable.append (tidy_columns columns)).append hbody).append hcells).append hstop
    simpa [List.append_assoc] using this
  | screen hlines =>
    have hstart : Tidy "<screen>\n".toList := tidy_parts ["<screen>".toList, ['\n']] (by decide)
    have hstop : Tidy "</screen>\n".toList := tidy_parts ["</screen>".toList, ['\n']] (by decide)
    refine (hstart.append (tidy_flatMap fun line hline => ?_)).append hstop
    exact (tidy_escaped (hlines line hline)).append tidy_lineEnd
  | graphic hfileref =>
    have hstop : Tidy "</graphic>\n".toList := tidy_parts ["</graphic>".toList, ['\n']] (by decide)
    have := (tidy_graphic hfileref).append hstop
    simpa [List.append_assoc] using this

theorem tidy_blocks {t : Text} (h : AreBlocks t) : Tidy t := by
  induction h with
  | nil => exact tidy_nil
  | cons hb _ ih => exact (tidy_block hb).append ih

theorem tidy_sectionTags {k : Nat} (h1 : 1 ≤ k) (h3 : k ≤ 3) :
    Tidy (WikiArticle.startTag (sectionName k)) ∧ Tidy (WikiArticle.endTag (sectionName k)) := by
  have hk : k = 1 ∨ k = 2 ∨ k = 3 := by omega
  rcases hk with rfl | rfl | rfl
  all_goals exact ⟨tidy_fixed (by decide), tidy_fixed (by decide)⟩

mutual

theorem IsSection.tidy {k : Nat} {t : Text} : IsSection k t → Tidy t
  | .titled h1 h3 htitle hblocks hinside => by
    obtain ⟨hstart, hstop⟩ := tidy_sectionTags h1 h3
    have hfront : Tidy " <title>".toList := tidy_parts [[' '], "<title>".toList] (by decide)
    have hback : Tidy "</title>\n".toList := tidy_parts ["</title>".toList, ['\n']] (by decide)
    exact (((((hstart.append hfront).append (tidy_inline htitle)).append hback).append (tidy_blocks hblocks)).append
      hinside.tidy).append hstop
  | .skipped h1 h3 hinside _ => by
    obtain ⟨hstart, hstop⟩ := tidy_sectionTags h1 h3
    exact ((hstart.append tidy_space).append hinside.tidy).append hstop

theorem AreSections.tidy {k : Nat} {t : Text} : AreSections k t → Tidy t
  | .nil => tidy_nil
  | .last ht => ht.tidy.append tidy_lineEnd
  | .cons ht hu _ => ht.tidy.append (tidy_space.append hu.tidy)

end

theorem IsBody.tidy {t : Text} (h : IsBody t) : Tidy t := by
  obtain ⟨blocks, sections, rfl, hblocks, hsections⟩ := h
  exact (tidy_blocks hblocks).append hsections.tidy

/-! ### Bodies of articles -/

theorem document_ofText (options : Options) (source : Text) : (Article.ofText options source).document =
    Article.prologue options.language ++ ofLines options.imageBase (Text.lines source) ++ Article.epilogue := rfl

/-- The body of the article of every source is of the grammar, holds no bracket that is not of a generated
    tag and no ampersand that is not of an entity, and ends every element that it starts and no other. -/
theorem isBody_ofText (options : Options) (source : Text) : ∃ body : Text,
    (Article.ofText options source).document = Article.prologue options.language ++ body ++ Article.epilogue ∧
    IsBody body ∧ Tidy body ∧ Markup.openElements body = some [] := by
  obtain ⟨t, hgood, hfragments, -⟩ := exists_tree options.imageBase (Text.lines source)
  have hbody : IsBody (ofLines options.imageBase (Text.lines source)) := by
    rw [ofLines, hfragments]
    exact isBody_fragments hgood
  exact ⟨_, document_ofText options source, hbody, hbody.tidy, openElements_ofLines options.imageBase (Text.lines source)⟩

end Body
end WikiArticle
