import WikiArticle.Proofs.Body.Attributes
import WikiArticle.Proofs.Line.Picture
import WikiArticle.Proofs.Text.Between

/-! The references of pictures in a body. The base url has no other effect than on them: the bodies of the same lines
    with two base urls have the same fragments but for these references, and in the text of a body the
    references stand where their frame is, and nothing else does. The references are those of the lines
    outside literal blocks that are pictures. -/

namespace WikiArticle
open Inline Text

/-! ### Bodies with two base urls -/

/-- The fragment without the reference, if it is a picture. -/
def Fragment.unreferred : Fragment → Fragment
  | graphic _ => graphic []
  | f => f

namespace Body

/-- Two steps lead to the same context and write the same but for the references of pictures. -/
structure Alike (s t : Step) : Prop where
  context : s.context = t.context
  written : s.written.map Fragment.unreferred = t.written.map Fragment.unreferred

theorem Alike.refl (s : Step) : Alike s s := ⟨rfl, rfl⟩

theorem Alike.andThen {s t : Step} (h : Alike s t) {f g : Context → Step} (hnext : ∀ c, Alike (f c) (g c)) :
    Alike (s.andThen f) (t.andThen g) := by
  have hfg := hnext s.context
  refine ⟨?_, ?_⟩
  · rw [Step.context_andThen, Step.context_andThen, ← h.context, hfg.context]
  · rw [Step.written_andThen, Step.written_andThen, List.map_append, List.map_append, h.written, ← h.context,
      hfg.written]

section
variable (base base' : Option Text)

theorem alike_plainLine (line : Text) (c : Context) : Alike (c.plainLine base line) (c.plainLine base' line) := by
  unfold Context.plainLine
  cases Line.ofText line with
  | picture url => exact (Alike.refl (c.setContainer none)).andThen fun c => ⟨rfl, rfl⟩
  | fence side => cases side <;> exact Alike.refl _
  | _ => exact Alike.refl _

theorem alike_push (line : Text) (c : Context) : Alike (c.push base line) (c.push base' line) := by
  unfold Context.push Context.tableLine
  dsimp only
  split
  · exact Alike.refl _
  · split
    · split
      · exact Alike.refl _
      · exact Alike.refl _
      · exact (Alike.refl c.closeTable).andThen (alike_plainLine base base' _)
    · exact alike_plainLine base base' _ c

theorem alike_pushAll (lines : List Text) (c : Context) : Alike (pushAll base lines c) (pushAll base' lines c) := by
  induction lines generalizing c with
  | nil => exact Alike.refl _
  | cons line lines ih => exact (alike_push base base' line c).andThen ih

theorem alike_whole (lines : List Text) (c : Context) :
    Alike ((pushAll base lines c).andThen finish) ((pushAll base' lines c).andThen finish) :=
  (alike_pushAll base base' lines c).andThen fun c => Alike.refl (finish c)

end

end Body

/-! ### Texts of bodies -/

namespace Fragment

/-- What stands around the reference of a picture. -/
def referenceFrame : Frame := ⟨"<graphic fileref=\"".toList, "\"></graphic>".toList, by decide⟩

/-- The texts with a `<` that fragments are written with, pictures aside. -/
def literals : List Text :=
  ["<para".toList, "</para".toList, "<itemizedlist".toList, "</itemizedlist".toList, "<orderedlist".toList,
    "</orderedlist".toList, "<sect".toList, "</sect".toList, "<title>".toList, "</title>\n".toList,
    "<listitem><para>".toList, "</para></listitem>\n".toList,
    "<table frame='all'><title></title> <tgroup cols='".toList,
    "' align='left' colsep='1' rowsep='1'> <tbody>\n".toList,
    "<row> ".toList, "<entry>".toList, "</entry> ".toList, "</row>\n".toList, "</tbody></tgroup></table>\n".toList,
    "<screen>\n".toList, "</screen>\n".toList, "<ulink url=\"".toList, "</ulink>".toList,
    "<emphasis role=\"bold\">".toList, "<emphasis>".toList, "</emphasis>".toList, "<literal>".toList,
    "</literal>".toList]

/-- The front begins with `<`, and nowhere in what fragments other than pictures are written with. -/
structure Foreign (f : Frame) : Prop where
  head : f.front.head? = some '<'
  apart : ∀ t ∈ literals, f.Apart t

theorem foreign_referenceFrame : Foreign referenceFrame := ⟨rfl, by decide⟩

section Foreign
variable {f : Frame} (hf : Foreign f)
include hf

theorem Foreign.apart_chars {t : Text} (h : '<' ∉ t) : f.Apart t :=
  Frame.apart_of_notMem fun c hc => by
    rw [hf.head] at hc
    cases hc
    exact h

theorem Foreign.apart_mark (m : Mark) : f.Apart m.text := by
  cases m with
  | char c => exact hf.apart_chars (Mark.lt_notMem_entity c)
  | linkStart url =>
    rw [Mark.text_linkStart]
    exact ((hf.apart _ (by decide)).append (hf.apart_chars (lt_notMem_escape url))).append (hf.apart_chars (by decide))
  | linkStop => exact hf.apart _ (by decide)
  | start k => cases k <;> exact hf.apart _ (by decide)
  | stop k => cases k <;> exact hf.apart _ (by decide)

theorem Foreign.apart_markUp (t : Text) : f.Apart (markUp t) := by
  obtain ⟨ms, hms, -⟩ := exists_marks t
  rw [hms]
  exact Frame.apart_flatMap fun m _ => hf.apart_mark m

/-- The tags that start and end an element, by what their names begin with. -/
theorem Foreign.apart_tags (front : Text) {rest : Text} (hstart : '<' :: front ∈ literals)
    (hstop : '<' :: '/' :: front ∈ literals) (hrest : '<' ∉ rest) :
    f.Apart ('<' :: (front ++ rest)) ∧ f.Apart ('<' :: '/' :: (front ++ rest)) :=
  ⟨(hf.apart _ hstart).append (hf.apart_chars hrest), (hf.apart _ hstop).append (hf.apart_chars hrest)⟩

theorem Foreign.apart_section (k : Nat) {c : Char} (hc : c ≠ '<') :
    f.Apart (WikiArticle.startTag (sectionName k) ++ [c]) ∧ f.Apart (WikiArticle.endTag (sectionName k) ++ [c]) := by
  have hrest : '<' ∉ decimal k ++ ['>', c] := by simp [notMem_decimal (c := '<') (by decide) k, hc.symm]
  have htags := hf.apart_tags "sect".toList (by decide) (by decide) hrest
  simpa [WikiArticle.startTag, WikiArticle.endTag, sectionName] using htags

theorem Foreign.apart_container (kind : Container) {c : Char} (hc : c ≠ '<') :
    f.Apart (WikiArticle.startTag kind.name ++ [c]) ∧ f.Apart (WikiArticle.endTag kind.name ++ [c]) := by
  have hrest : '<' ∉ ['>', c] := by simp [hc.symm]
  cases kind with
  | paragraph => exact hf.apart_tags "para".toList (by decide) (by decide) hrest
  | list kind =>
    cases kind with
    | itemized => exact hf.apart_tags "itemizedlist".toList (by decide) (by decide) hrest
    | ordered => exact hf.apart_tags "orderedlist".toList (by decide) (by decide) hrest

theorem Foreign.apart_text (g : Fragment) (hg : ∀ r, g ≠ graphic r) : f.Apart g.text := by
  have hline {t : Text} (ht : f.Apart t) : f.Apart (t ++ ['\n']) := ht.append (hf.apart_chars (by decide))
  cases g with
  | sectionStart k =>
    rw [text_sectionStart]
    exact (hf.apart_section k (by decide)).1
  | sectionEnd k =>
    rw [text_sectionEnd]
    exact (hf.apart_section k (by decide)).2
  | sectionTurn k =>
    rw [text_sectionTurn]
    exact (hf.apart_section k (by decide)).2
  | containerStart kind =>
    rw [text_containerStart]
    exact (hf.apart_container kind (by decide)).1
  | containerEnd kind =>
    rw [text_containerEnd]
    exact (hf.apart_container kind (by decide)).2
  | title source =>
    rw [text_title]
    exact ((hf.apart _ (by decide)).append (hf.apart_markUp source)).append (hf.apart _ (by decide))
  | item source =>
    rw [text_item]
    exact ((hf.apart _ (by decide)).append (hf.apart_markUp source)).append (hf.apart _ (by decide))
  | paragraphLine source =>
    rw [text_paragraphLine]
    exact hline (hf.apart_markUp source)
  | graphic r => exact absurd rfl (hg r)
  | tableStart columns =>
    rw [text_tableStart]
    refine ((hf.apart _ (by decide)).append (hf.apart_chars ?_)).append (hf.apart _ (by decide))
    exact notMem_decimal (by decide) columns
  | row cells =>
    rw [text_row]
    refine ((hf.apart _ (by decide)).append (Frame.apart_flatMap fun cell _ => ?_)).append (hf.apart _ (by decide))
    exact ((hf.apart _ (by decide)).append (hf.apart_markUp cell)).append (hf.apart _ (by decide))
  | tableEnd => exact hf.apart _ (by decide)
  | screenStart => exact hf.apart _ (by decide)
  | screenLine source =>
    rw [text_screenLine]
    exact hline (hf.apart_chars (lt_notMem_escape source))
  | screenEnd => exact hf.apart _ (by decide)

end Foreign

theorem text_graphic_frame (r : Text) :
    (graphic r).text = referenceFrame.front ++ escape r ++ referenceFrame.back ++ ['\n'] := by
  have hfront : "<graphic fileref=\"".toList = referenceFrame.front := rfl
  have hback : "\"></graphic>\n".toList = referenceFrame.back ++ ['\n'] := by decide
  rw [text_graphic, hfront, hback, List.append_assoc _ referenceFrame.back]

/-- The pictures of a body are read for their references, and nothing else is. -/
theorem read_textOf (gs : List Fragment) (rest : Text) :
    referenceFrame.values (textOf gs ++ rest) =
      (gs.flatMap Body.fragmentFilerefs).map escape ++ referenceFrame.values rest ∧
    referenceFrame.blanked (textOf gs ++ rest) = textOf (gs.map unreferred) ++ referenceFrame.blanked rest := by
  induction gs with
  | nil => exact ⟨rfl, rfl⟩
  | cons g gs ih =>
    rw [textOf_cons, List.append_assoc, List.map_cons, textOf_cons, List.flatMap_cons]
    by_cases hg : ∃ r, g = graphic r
    · obtain ⟨r, rfl⟩ := hg
      have hback : referenceFrame.back = '"' :: '>' :: "</graphic>".toList := by decide
      have hread := Frame.read_between hback (by decide) (gt_notMem_escape r) (['\n'] ++ (textOf gs ++ rest))
      have hline := (foreign_referenceFrame.apart_chars (t := ['\n']) (by decide)).read_append (textOf gs ++ rest)
      constructor
      · rw [text_graphic_frame, List.append_assoc _ ['\n'], hread.1, hline.1, ih.1]
        rfl
      · rw [text_graphic_frame, List.append_assoc _ ['\n'], hread.2, hline.2, ih.2, unreferred, text_graphic_frame,
          escape_nil]
        simp only [List.append_assoc, List.nil_append]
    · have hnone : ∀ r, g ≠ graphic r := fun r hr => hg ⟨r, hr⟩
      have hread := (foreign_referenceFrame.apart_text g hnone).read_append (textOf gs ++ rest)
      have hsame : Body.fragmentFilerefs g = [] ∧ g.unreferred = g := by
        cases g with
        | graphic r => exact absurd rfl (hnone r)
        | _ => exact ⟨rfl, rfl⟩
      rw [hread.1, hread.2, ih.1, ih.2, hsame.1, hsame.2, List.nil_append, List.append_assoc]
      exact ⟨rfl, rfl⟩

end Fragment

/-! ### Pictures of sources -/

namespace Body

/-- The urls of the pictures among some lines, the first of which stands in a literal block or does not. -/
def picturesFrom : Bool → List Text → List Text
  | _, [] => []
  | inLiteral, line :: lines =>
    (if inLiteral then none else Picture.url? line).toList ++ picturesFrom (Place.literalBehind inLiteral line) lines

/-- The urls of the pictures among the lines of a source, those outside literal blocks in their order. -/
def pictures (lines : List Text) : List Text := picturesFrom false (lines.map trimEnd)

theorem ofText_picture_iff {line url : Text} : Line.ofText line = .picture url ↔ Picture.url? line = some url := by
  refine ⟨fun h => ?_, Picture.ofText_of_url?⟩
  unfold Line.ofText at h
  repeat' split at h
  all_goals try cases h
  assumption

theorem filerefs_content? (base : Option Text) (line : Text) (p : Place) :
    (p.content? base line).toList.flatMap Content.filerefs =
      (if p.inLiteral then none else Picture.url? line).toList.map (Picture.fileref base) := by
  unfold Place.content?
  split
  · split <;> rfl
  · have hnone (hline : ∀ url, Line.ofText line ≠ .picture url) : Picture.url? line = none :=
      Option.eq_none_iff_forall_ne_some.mpr fun url hurl => hline url (Picture.ofText_of_url? hurl)
    cases hline : Line.ofText line with
    | picture url =>
      rw [ofText_picture_iff.mp hline]
      rfl
    | fence side =>
      rw [hnone (by simp [hline])]
      cases side <;> rfl
    | _ =>
      rw [hnone (by simp [hline])]
      rfl

theorem filerefs_eq (base : Option Text) (lines : List Text) :
    filerefs base lines = (pictures lines).map (Picture.fileref base) := by
  suffices hfrom : ∀ (p : Place), (contentsFrom base p lines).flatMap Content.filerefs =
      (picturesFrom p.inLiteral (lines.map trimEnd)).map (Picture.fileref base) from hfrom .start
  induction lines with
  | nil => exact fun p => rfl
  | cons line lines ih =>
    intro p
    rw [contentsFrom, List.flatMap_append, ih, filerefs_content?, List.map_cons, picturesFrom, List.map_append]
    rfl

theorem filerefs_fragments (base : Option Text) (lines : List Text) :
    (fragments base lines).flatMap fragmentFilerefs = (pictures lines).map (Picture.fileref base) := by
  obtain ⟨t, -, hfragments, hcontents⟩ := exists_tree base lines
  rw [hfragments, flatMap_tree agrees_filerefs, ← hcontents]
  exact filerefs_eq base lines

end Body
end WikiArticle
