import Mathlib.Data.List.Forall2
import WikiArticle.Proofs.Article.Attributes
import WikiArticle.Proofs.Body.References

/-! What the options of a conversion can change. The language stands in one attribute of the article and the base
    url in the references of its pictures: the articles of one source with any two options are the same text
    once these values are blanked, and a reference is told from the base url and the url of the picture. -/

namespace WikiArticle
namespace Article
open Inline Text Body Fragment

/-- What stands around the language of an article. -/
def languageFrame : Frame := ⟨"<article lang=\"".toList, "\">".toList, by decide⟩

theorem foreign_languageFrame : Foreign languageFrame := ⟨rfl, by decide⟩

set_option maxRecDepth 2000 in
theorem apart_documentType {f : Frame} (hf : Foreign f) (hxml : f.Apart "<?".toList) (hdoctype : f.Apart "<!".toList) :
    f.Apart documentType := by
  have hsplit : documentType = ("<?".toList ++ (xmlDeclaration.tail ++ ['>', '\n'])) ++
      ("<!".toList ++ (doctype.tail ++ ['>', '\n'])) := by
    rw [documentType_eq]
    rfl
  rw [hsplit]
  exact (hxml.append (hf.apart_chars (by decide))).append (hdoctype.append (hf.apart_chars (by decide)))

theorem prologue_frame (language : Text) : prologue language =
    documentType ++ (languageFrame.front ++ escape language ++ languageFrame.back ++ ['\n']) := by
  have hfront : "<article lang=\"".toList = languageFrame.front := rfl
  have hback : "\">\n".toList = languageFrame.back ++ ['\n'] := by decide
  rw [prologue, hfront, hback]
  simp only [List.append_assoc]

theorem apart_body (gs : List Fragment) : languageFrame.Apart (textOf gs ++ epilogue) := by
  have hgraphic (r : Text) : languageFrame.Apart (graphic r).text := by
    rw [text_graphic]
    have hfront : languageFrame.Apart "<graphic fileref=\"".toList := by decide
    exact (hfront.append (foreign_languageFrame.apart_chars (lt_notMem_escape r))).append (by decide)
  have hbody : languageFrame.Apart (textOf gs) := by
    induction gs with
    | nil => exact Frame.apart_nil
    | cons g gs ih =>
      rw [textOf_cons]
      refine Frame.Apart.append ?_ ih
      by_cases hg : ∃ r, g = graphic r
      · obtain ⟨r, rfl⟩ := hg
        exact hgraphic r
      · exact foreign_languageFrame.apart_text g fun r hr => hg ⟨r, hr⟩
  exact hbody.append (by decide)

/-- Nothing but the language of an article is read for it, and without it the article is one of no language. -/
theorem read_language (language : Text) (gs : List Fragment) :
    languageFrame.values (prologue language ++ (textOf gs ++ epilogue)) = [escape language] ∧
    languageFrame.blanked (prologue language ++ (textOf gs ++ epilogue)) = prologue [] ++ (textOf gs ++ epilogue) := by
  have hback : languageFrame.back = '"' :: '>' :: [] := by decide
  have htype := apart_documentType foreign_languageFrame (by decide) (by decide)
  have hread := Frame.read_between hback (by decide) (gt_notMem_escape language) (['\n'] ++ (textOf gs ++ epilogue))
  have hrest := ((foreign_languageFrame.apart_chars (t := ['\n']) (by decide)).append (apart_body gs)).read
  rw [prologue_frame, prologue_frame, List.append_assoc, List.append_assoc _ ['\n'], (htype.read_append _).1,
    (htype.read_append _).2, hread.1, hread.2, hrest.1, hrest.2]
  simp only [escape_nil, List.append_assoc, List.nil_append, true_and]

/-- The references of its pictures are read in an article of any language, and nothing else is. -/
theorem read_references (language : Text) (gs : List Fragment) :
    referenceFrame.values (prologue language ++ (textOf gs ++ epilogue)) = (gs.flatMap fragmentFilerefs).map escape ∧
    referenceFrame.blanked (prologue language ++ (textOf gs ++ epilogue)) =
      prologue language ++ (textOf (gs.map unreferred) ++ epilogue) := by
  have htype := apart_documentType foreign_referenceFrame (by decide) (by decide)
  have hfront : referenceFrame.Apart languageFrame.front := by decide
  have hback : referenceFrame.Apart (languageFrame.back ++ ['\n']) := by decide
  have hprologue : referenceFrame.Apart (prologue language) := by
    rw [prologue_frame, List.append_assoc _ languageFrame.back]
    exact htype.append ((hfront.append (foreign_referenceFrame.apart_chars (lt_notMem_escape language))).append hback)
  have hepilogue : referenceFrame.Apart epilogue := by decide
  rw [(hprologue.read_append _).1, (hprologue.read_append _).2, (read_textOf gs _).1, (read_textOf gs _).2,
    hepilogue.read.1, hepilogue.read.2, List.append_nil]
  exact ⟨rfl, rfl⟩

/-- What is written for the url of a picture: a local file for an attachment, which is found under a base url, and
    the url itself for any other picture. -/
inductive Refers (base : Option Text) (url : Text) : Text → Prop
  | attachment {b rest : Text} : base = some b → b ≠ [] → url = b ++ rest →
      Refers base url (escape ("file:./".toList ++ rest))
  | other : (∀ b, base = some b → b = [] ∨ ¬b <+: url) → Refers base url (escape url)

theorem refers_fileref (base : Option Text) (url : Text) : Refers base url (escape (Picture.fileref base url)) := by
  cases base with
  | none => exact Refers.other nofun
  | some b =>
    unfold Picture.fileref
    dsimp only
    by_cases hb : b ≠ [] ∧ b <+: url
    · obtain ⟨hne, rest, rfl⟩ := hb
      have hcond : (!b.isEmpty && b.isPrefixOf (b ++ rest)) = true := by simp [hne]
      rw [if_pos hcond, List.drop_left]
      exact Refers.attachment rfl hne rfl
    · have hcond : ¬(!b.isEmpty && b.isPrefixOf url) = true := by simpa using hb
      rw [if_neg hcond]
      refine Refers.other fun b' hb' => ?_
      cases hb'
      exact Classical.or_iff_not_imp_left.mpr fun hne hprefix => hb ⟨hne, hprefix⟩

/-- The articles of one source with any two options are the same text once the language and the references of the
    pictures are blanked; they have the same fragments but for these references, and the same warnings.
    What is blanked is the language, and for each picture outside literal blocks what its url and the base
    url say. -/
theorem options_confined (options options' : Options) (source : Text) :
    referenceFrame.blanked (languageFrame.blanked (ofText options source).document) =
      referenceFrame.blanked (languageFrame.blanked (ofText options' source).document) ∧
    (fragments options.imageBase (Text.lines source)).map unreferred =
      (fragments options'.imageBase (Text.lines source)).map unreferred ∧
    (ofText options source).warnings = (ofText options' source).warnings ∧
    languageFrame.values (ofText options source).document = [escape options.language] ∧
    List.Forall₂ (Refers options.imageBase) (pictures (Text.lines source))
      (referenceFrame.values (ofText options source).document) := by
  have hdocument (o : Options) : (ofText o source).document =
      prologue o.language ++ (textOf (fragments o.imageBase (Text.lines source)) ++ epilogue) :=
    List.append_assoc _ _ _
  have hwritten : (fragments options.imageBase (Text.lines source)).map unreferred =
      (fragments options'.imageBase (Text.lines source)).map unreferred :=
    (alike_whole options.imageBase options'.imageBase (Text.lines source) .settled).written
  have hcontext := (alike_pushAll options.imageBase options'.imageBase (Text.lines source) .settled).context
  refine ⟨?_, hwritten, congrArg warnings hcontext, ?_, ?_⟩
  · rw [hdocument, hdocument, (read_language _ _).2, (read_language _ _).2, (read_references _ _).2,
      (read_references _ _).2, hwritten]
  · rw [hdocument, (read_language _ _).1]
  · rw [hdocument, (read_references _ _).1, filerefs_fragments, List.map_map, List.forall₂_map_right_iff]
    exact List.forall₂_same.mpr fun url _ => refers_fileref options.imageBase url

end Article
end WikiArticle
