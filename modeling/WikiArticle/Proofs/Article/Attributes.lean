import WikiArticle.Proofs.Body.Attributes

/-! The attributes of an article that hold source text: its language, the references of its pictures and the
    urls of its links. All of them survive if and only if the language and the references hold no quote
    and none of the three a character that no document can hold. -/

namespace WikiArticle
namespace Article
open Markup Inline Body

/-! ### The tags of an article -/

/-- What stands between the brackets of the tag that starts an article. -/
def languageTag (language : Text) : Text := "article lang=\"".toList ++ escape language ++ ['"']

/-- What stands between the brackets of the XML declaration. -/
def xmlDeclaration : Text := "?xml version=\"1.0\" encoding=\"UTF-8\"?".toList

/-- What stands between the brackets of the document type. -/
def doctype : Text := "!DOCTYPE article\n".toList ++ "  PUBLIC \"-//OASIS//DTD DocBook XML V4.1.2//EN\"\n".toList
  ++ "  \"http://www.oasis-open.org/docbook/xml/4.1.2/docbookx.dtd\"".toList

theorem doctype_eq : doctype = "!DOCTYPE article\n".toList
    ++ "  PUBLIC \"-//OASIS//DTD DocBook XML V4.1.2//EN\"\n".toList
    ++ "  \"http://www.oasis-open.org/docbook/xml/4.1.2/docbookx.dtd\"".toList := rfl

theorem documentType_eq : documentType = ('<' :: xmlDeclaration ++ ['>']) ++ ['\n'] ++ ('<' :: doctype ++ ['>']) ++ ['\n'] := by
  have hfirst : "<?xml version=\"1.0\" encoding=\"UTF-8\"?>\n<!DOCTYPE article\n".toList =
      '<' :: xmlDeclaration ++ ['>', '\n', '<'] ++ "!DOCTYPE article\n".toList := by decide
  have hlast : "  \"http://www.oasis-open.org/docbook/xml/4.1.2/docbookx.dtd\">\n".toList =
      "  \"http://www.oasis-open.org/docbook/xml/4.1.2/docbookx.dtd\"".toList ++ ['>', '\n'] := by decide
  unfold documentType
  rw [String.toList_append, String.toList_append, hfirst, hlast, doctype_eq]
  simp only [List.append_assoc, List.cons_append, List.nil_append]

set_option maxRecDepth 2000 in
theorem gt_notMem_doctype : '>' ∉ doctype := by
  have hname : '>' ∉ "!DOCTYPE article\n".toList := by decide
  have hpublic : '>' ∉ "  PUBLIC \"-//OASIS//DTD DocBook XML V4.1.2//EN\"\n".toList := by decide
  have hsystem : '>' ∉ "  \"http://www.oasis-open.org/docbook/xml/4.1.2/docbookx.dtd\"".toList := by decide
  rw [doctype_eq]
  simp only [List.mem_append, hname, hpublic, hsystem, or_false, not_false_eq_true]

theorem gt_notMem_languageTag (language : Text) : '>' ∉ languageTag language :=
  gt_notMem_quoted "article lang=\"".toList (by decide) language

theorem prologue_eq (language : Text) : prologue language = documentType
    ++ ('<' :: languageTag language ++ ['>']) ++ ['\n'] := by
  have hfront : "<article lang=\"".toList = '<' :: "article lang=\"".toList := rfl
  have hback : "\">\n".toList = ['"', '>', '\n'] := rfl
  unfold prologue languageTag
  rw [hfront, hback]
  simp only [List.append_assoc, List.cons_append, List.nil_append]

/-- The start tags of an article are two declarations, the tag of the article and those of its body. -/
theorem startTags_document (options : Options) (source : Text) :
    startTags (tokens (ofText options source).document) = xmlDeclaration :: doctype ::
      languageTag options.language :: startTags (tokens (ofLines options.imageBase (Text.lines source))) := by
  have hxml : Cut ('<' :: xmlDeclaration ++ ['>']) [.start xmlDeclaration] := cut_tag (by decide)
  have hdoctype : Cut ('<' :: doctype ++ ['>']) [.start doctype] := cut_tag gt_notMem_doctype
  have hlanguage : Cut ('<' :: languageTag options.language ++ ['>']) [.start (languageTag options.language)] :=
    cut_tag (gt_notMem_languageTag options.language)
  have hline := Fragment.cut_lineEnd
  have hbody := Fragment.cut_textOf (fragments options.imageBase (Text.lines source))
  have hepilogue : Cut epilogue [.stop "article".toList, .char '\n'] := by decide
  have hall := ((((((hxml.append hline).append hdoctype).append hline).append hlanguage).append hline).append
    hbody).append hepilogue
  rw [← documentType_eq, ← prologue_eq] at hall
  have hdocument : (ofText options source).document =
      prologue options.language ++ ofLines options.imageBase (Text.lines source) ++ epilogue := rfl
  rw [hdocument, ofLines, hall.2, hbody.2, startTags_append, startTags_append]
  exact List.append_nil _

/-! ### Survival -/

/-- Whether a tag is a declaration, of XML or of the document type. -/
def isDeclaration (inside : Text) : Bool := inside.head? == some '?' || inside.head? == some '!'

/-- Every start tag of the article is one of XML, and its language, the references of its pictures and the urls
    of its links can be read in the tags as they are in the source. -/
structure AttributesSurvive (options : Options) (source : Text) : Prop where
  tags : ∀ inside ∈ startTags (tokens (ofText options source).document), isDeclaration inside = false →
    IsStartTag inside
  language : valuesOf "article".toList "lang".toList (startTags (tokens (ofText options source).document)) =
    [options.language]
  filerefs : valuesOf "graphic".toList "fileref".toList (startTags (tokens (ofText options source).document)) =
    filerefs options.imageBase (Text.lines source)
  urls : valuesOf "ulink".toList "url".toList (startTags (tokens (ofText options source).document)) =
    urls options.imageBase (Text.lines source)

theorem begun_language : StartTag.Begun "article lang=\"".toList "article".toList "lang".toList := fun _ => rfl

theorem languageTag_eq (language : Text) :
    languageTag language = "article lang=\"".toList ++ escape language ++ ['"'] := rfl

/-- A declaration is no element of a name that the article gives an attribute. -/
theorem valuesOf_declaration {inside element : Text} (hdeclaration : isDeclaration inside = true)
    (helement : element ∈ ["article".toList, "graphic".toList, "ulink".toList]) (key : Text) (tags : List Text) :
    valuesOf element key (inside :: tags) = valuesOf element key tags := by
  refine List.filterMap_cons_none ?_
  cases hread : StartTag.ofText? inside with
  | none => rfl
  | some tag =>
    have hname : tag.name ≠ element := by
      rintro rfl
      have helements : ∀ element ∈ ["article".toList, "graphic".toList, "ulink".toList],
          element.head? ≠ some '?' ∧ element.head? ≠ some '!' := by decide
      cases inside with
      | nil => cases hdeclaration
      | cons c w =>
        simp only [isDeclaration, List.head?_cons, Bool.or_eq_true, beq_iff_eq, Option.some.injEq] at hdeclaration
        rcases hdeclaration with rfl | rfl
        · exact (helements _ helement).1 (StartTag.head_of_ofText (by decide) hread)
        · exact (helements _ helement).2 (StartTag.head_of_ofText (by decide) hread)
    rw [Option.bind_some, if_neg hname]

theorem valuesOf_document (options : Options) (source : Text) {element : Text}
    (helement : element ∈ ["article".toList, "graphic".toList, "ulink".toList]) (key : Text) :
    valuesOf element key (startTags (tokens (ofText options source).document)) =
      valuesOf element key (languageTag options.language ::
        startTags (tokens (ofLines options.imageBase (Text.lines source)))) := by
  rw [startTags_document, valuesOf_declaration rfl helement, valuesOf_declaration rfl helement]

/-- The urls of the links can be read in the tags as they are in the source, whatever the language and the
    references are. -/
theorem valuesOf_url (options : Options) (source : Text) :
    valuesOf "ulink".toList "url".toList (startTags (tokens (ofText options source).document)) =
      urls options.imageBase (Text.lines source) := by
  have htagged := tagged_ofLines options.imageBase (Text.lines source)
  rw [valuesOf_document options source (by decide), languageTag_eq, valuesOf_other begun_language (by decide),
    htagged.valuesOf_url fun url hurl => quote_notMem_urls hurl]

theorem clean_of_survive {options : Options} {source : Text} (h : AttributesSurvive options source) :
    (∀ t ∈ options.language :: filerefs options.imageBase (Text.lines source), Clean t) ∧
    ∀ url ∈ urls options.imageBase (Text.lines source), Clean url := by
  obtain ⟨htags, hlanguage, hfilerefs, -⟩ := h
  have htagged := tagged_ofLines options.imageBase (Text.lines source)
  have hbody : ∀ inside ∈ startTags (tokens (ofLines options.imageBase (Text.lines source))),
      inside ∈ startTags (tokens (ofText options source).document) := fun inside hmem => by
    rw [startTags_document]
    exact List.mem_cons_of_mem _ (List.mem_cons_of_mem _ (List.mem_cons_of_mem _ hmem))
  have hl : IsStartTag (languageTag options.language) := by
    refine htags _ ?_ rfl
    rw [startTags_document]
    exact List.mem_cons_of_mem _ (List.mem_cons_of_mem _ List.mem_cons_self)
  have hfs : ∀ f ∈ filerefs options.imageBase (Text.lines source), IsStartTag (Fragment.graphicTag f) :=
    fun f hf => htags _ (hbody _ (htagged.graphicTag_mem f hf)) rfl
  have hus : ∀ u ∈ urls options.imageBase (Text.lines source), IsStartTag (Mark.linkTag u) :=
    fun u hu => htags _ (hbody _ (htagged.linkTag_mem u hu)) rfl
  obtain ⟨tag, htag, hwell⟩ := hl
  rw [languageTag_eq] at htag
  rw [valuesOf_document options source (by decide), languageTag_eq, valuesOf_source begun_language htag,
    htagged.valuesOf_language] at hlanguage
  rw [valuesOf_document options source (by decide), languageTag_eq, valuesOf_other begun_language (by decide),
    htagged.valuesOf_fileref hfs] at hfilerefs
  refine ⟨List.forall_mem_cons.mpr ⟨?_, fun f hf => ?_⟩, fun url hurl => ?_⟩
  · exact clean_of_isStartTag begun_language ⟨tag, htag, hwell⟩ (List.singleton_inj.mp hlanguage)
  · exact clean_of_isStartTag begun_graphic (hfs f hf)
      (List.map_inj_left.mp (hfilerefs.trans (List.map_id _).symm) f hf)
  · exact clean_of_isStartTag begun_link (hus url hurl) (StartTag.takeWhile_of_notMem (quote_notMem_urls hurl))

theorem survive_of_clean {options : Options} {source : Text}
    (hclean : ∀ t ∈ options.language :: filerefs options.imageBase (Text.lines source), Clean t)
    (hurls : ∀ url ∈ urls options.imageBase (Text.lines source), Clean url) : AttributesSurvive options source := by
  obtain ⟨hlanguage, hfilerefs⟩ := List.forall_mem_cons.mp hclean
  have htagged := tagged_ofLines options.imageBase (Text.lines source)
  have hl : IsStartTag (languageTag options.language) :=
    isStartTag_source begun_language (by decide) (by decide) hlanguage
  have hfs : ∀ f ∈ filerefs options.imageBase (Text.lines source), IsStartTag (Fragment.graphicTag f) :=
    fun f hf => isStartTag_source begun_graphic (by decide) (by decide) (hfilerefs f hf)
  refine ⟨fun inside hmem hdeclaration => ?_, ?_, ?_, valuesOf_url options source⟩
  · rw [startTags_document] at hmem
    simp only [List.mem_cons] at hmem
    rcases hmem with rfl | rfl | rfl | hmem
    · cases hdeclaration
    · cases hdeclaration
    · exact hl
    · exact htagged.isStartTag hfilerefs hurls inside hmem
  · obtain ⟨tag, htag, -⟩ := hl
    rw [languageTag_eq] at htag
    rw [valuesOf_document options source (by decide), languageTag_eq, valuesOf_source begun_language htag,
      htagged.valuesOf_language, StartTag.takeWhile_of_notMem hlanguage.quote]
  · rw [valuesOf_document options source (by decide), languageTag_eq, valuesOf_other begun_language (by decide),
      htagged.valuesOf_fileref hfs]
    refine (List.map_inj_left.mpr fun f hf => ?_).trans (List.map_id _)
    exact StartTag.takeWhile_of_notMem (hfilerefs f hf).quote

/-- The attributes of the article of a source survive if and only if no quote stands in the language or in the
    reference of a picture, and no character that a document cannot hold in these or in the url of a link.
    The urls of links can be read in any case. -/
theorem attributesSurvive_iff (options : Options) (source : Text) :
    (AttributesSurvive options source ↔
      (∀ t ∈ options.language :: filerefs options.imageBase (Text.lines source),
        '"' ∉ t ∧ ∀ c ∈ t, isDocumentChar c = true) ∧
      ∀ url ∈ urls options.imageBase (Text.lines source), ∀ c ∈ url, isDocumentChar c = true) ∧
    valuesOf "ulink".toList "url".toList (startTags (tokens (ofText options source).document)) =
      urls options.imageBase (Text.lines source) := by
  refine ⟨⟨fun h => ?_, fun h => ?_⟩, valuesOf_url options source⟩
  · obtain ⟨hclean, hurls⟩ := clean_of_survive h
    exact ⟨fun t ht => ⟨(hclean t ht).quote, (hclean t ht).chars⟩, fun url hurl => (hurls url hurl).chars⟩
  · obtain ⟨hclean, hurls⟩ := h
    exact survive_of_clean (fun t ht => ⟨(hclean t ht).1, (hclean t ht).2⟩)
      fun url hurl => ⟨quote_notMem_urls hurl, hurls url hurl⟩

end Article
end WikiArticle
