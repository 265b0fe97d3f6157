import WikiArticle.Article
import WikiArticle.Proofs.Body.Stack
import WikiArticle.Proofs.Body.Tree
import WikiArticle.Proofs.Markup.StartTag

/-! The attributes that hold source text: the language of the article, the references of its pictures and the
    urls of its links. Each is written between double quotes with its quotes as they are. A url ends
    before a quote, so links survive; the language and the references survive if they hold no quote. -/

namespace WikiArticle
namespace Body
open Markup Inline

/-! ### Sources -/

/-- The urls of the links that begin among the marks. -/
def linkUrlsOf (ms : List Mark) : List Text :=
  ms.filterMap fun
    | .linkStart url => some url
    | _ => none

/-- The urls of the link spans of a text, in their order. -/
def linkUrls (t : Text) : List Text := linkUrlsOf (linkMarks t)

/-- The urls of the links in what a line contributes. -/
def Content.urls : Content → List Text
  | title _ text | item _ text | paragraphLine text => linkUrls text
  | row cells => cells.flatMap linkUrls
  | graphic _ | screenLine _ => []

/-- The reference of the picture that a line contributes, if it contributes one. -/
def Content.filerefs : Content → List Text
  | graphic fileref => [fileref]
  | _ => []

/-- The references of the pictures that the lines make. -/
def filerefs (base : Option Text) (lines : List Text) : List Text := (contents base lines).flatMap Content.filerefs

/-- The urls of the links that the lines make. -/
def urls (base : Option Text) (lines : List Text) : List Text := (contents base lines).flatMap Content.urls

/-! ### Start tags -/

/-- What stands between the brackets of the start tags. -/
def startTags (ts : List Token) : List Text :=
  ts.filterMap fun
    | .start inside => some inside
    | _ => none

/-- What can be read of the values of an attribute of the elements of a name. -/
def valuesOf (element key : Text) (tags : List Text) : List Text :=
  tags.filterMap fun inside => (StartTag.ofText? inside).bind fun tag =>
    if tag.name = element then (tag.value? key).map decode else none

/-- What stands between the brackets is a start tag of XML. -/
def IsStartTag (inside : Text) : Prop := ∃ tag, StartTag.ofText? inside = some tag ∧ tag.WellFormed

/-- The start tag is one of XML, and of an element whose attributes hold no source text. -/
def Plain (inside : Text) : Prop := ∃ tag, StartTag.ofText? inside = some tag ∧ tag.WellFormed ∧
  tag.name ≠ "article".toList ∧ tag.name ≠ "graphic".toList ∧ tag.name ≠ "ulink".toList

/-- The start tags are plain but for those of pictures and links, which hold the references and urls. -/
inductive Tagged : List Text → List Text → List Text → Prop
  | nil : Tagged [] [] []
  | plain {inside : Text} {tags fs us : List Text} : Plain inside → Tagged tags fs us → Tagged (inside :: tags) fs us
  | graphic (f : Text) {tags fs us : List Text} :
      Tagged tags fs us → Tagged (Fragment.graphicTag f :: tags) (f :: fs) us
  | link (u : Text) {tags fs us : List Text} : Tagged tags fs us → Tagged (Mark.linkTag u :: tags) fs (u :: us)

theorem Tagged.append {tags tags' fs fs' us us' : List Text} (h : Tagged tags fs us) (h' : Tagged tags' fs' us') :
    Tagged (tags ++ tags') (fs ++ fs') (us ++ us') := by
  induction h with
  | nil => exact h'
  | plain hplain _ ih => exact ih.plain hplain
  | graphic f _ ih => exact ih.graphic f
  | link u _ ih => exact ih.link u

theorem startTags_append (ts us : List Token) : startTags (ts ++ us) = startTags ts ++ startTags us :=
  List.filterMap_append

theorem startTags_start (inside : Text) (ts : List Token) :
    startTags (.start inside :: ts) = inside :: startTags ts := rfl

theorem startTags_stop (name : Text) (ts : List Token) : startTags (.stop name :: ts) = startTags ts := rfl

theorem startTags_char (c : Char) (ts : List Token) : startTags (.char c :: ts) = startTags ts := rfl

theorem startTags_nil : startTags [] = [] := rfl

theorem startTags_chars (t : Text) : startTags (t.map .char) = [] := by
  induction t with
  | nil => rfl
  | cons c t ih => exact ih

/-! ### Plain tags -/

theorem plain_name {n : Text} (hname : isName n = true) (hspace : ∀ c ∈ n, isTagSpace c = false)
    (hother : n ≠ "article".toList ∧ n ≠ "graphic".toList ∧ n ≠ "ulink".toList) : Plain n :=
  ⟨⟨n, []⟩, StartTag.ofText_name hspace, StartTag.wellFormed_name hname, hother⟩

theorem wellFormed_value {a : Attribute} (hname : isName a.name = true) (hquote : a.quote ∉ a.value)
    (hfree : ∀ c ∈ reserved, c ∉ a.value) (hchars : ∀ c ∈ a.value, isDocumentChar c = true) : a.WellFormed :=
  ⟨hname, hquote, hfree '<' (by decide), Text.begins_of_notMem (hfree '&' (by decide)), hchars⟩

theorem plain_table : Plain "table frame='all'".toList := by
  refine ⟨⟨"table".toList, [⟨"frame".toList, '\'', "all".toList⟩]⟩, by decide, ⟨by decide, ?_, by decide⟩, by decide⟩
  intro a ha
  obtain rfl := List.mem_singleton.mp ha
  exact wellFormed_value (by decide) (by decide) (Text.forall_of_all (by decide)) (Text.forall_of_all (by decide))

theorem plain_bold : Plain "emphasis role=\"bold\"".toList := by
  refine ⟨⟨"emphasis".toList, [⟨"role".toList, '"', "bold".toList⟩]⟩, by decide, ⟨by decide, ?_, by decide⟩, by decide⟩
  intro a ha
  obtain rfl := List.mem_singleton.mp ha
  exact wellFormed_value (by decide) (by decide) (Text.forall_of_all (by decide)) (Text.forall_of_all (by decide))

theorem mem_digits {c : Char} {n : Nat} (h : c ∈ decimal n) : c ∈ "0123456789".toList := by
  have hall : ∀ n < 10, Char.ofNat (48 + n) ∈ "0123456789".toList := by decide
  have hdigit : c.isDigit = true := Nat.isDigit_of_mem_toDigits (by decide) (by decide) h
  simp only [Char.isDigit, Bool.and_eq_true, decide_eq_true_eq] at hdigit
  have h48 : 48 ≤ c.toNat := hdigit.1
  have h57 : c.toNat ≤ 57 := hdigit.2
  have := hall (c.toNat - 48) (by omega)
  rwa [Nat.add_sub_cancel' h48, Char.ofNat_toNat] at this

theorem plain_sectionName (k : Nat) : Plain (sectionName k) := by
  have hchars : ∀ c ∈ "sect".toList ++ "0123456789".toList, isNameChar c = true ∧ isTagSpace c = false :=
    Text.forall_of_all (by decide)
  have hmem : ∀ c ∈ sectionName k, c ∈ "sect".toList ++ "0123456789".toList := fun c hc => by
    rcases List.mem_append.mp hc with hc | hc
    · exact List.mem_append_left _ hc
    · exact List.mem_append_right _ (mem_digits hc)
  have hother : ∀ t : Text, t.head? ≠ some 's' → sectionName k ≠ t := by
    rintro t ht rfl
    exact ht rfl
  refine plain_name ?_ (fun c hc => (hchars c (hmem c hc)).2)
    ⟨hother _ (by decide), hother _ (by decide), hother _ (by decide)⟩
  have hstart : (sectionName k).head?.any isNameStart = true := by
    have hs : isNameStart 's' = true := by decide
    exact hs
  rw [isName, hstart, Bool.true_and, List.all_eq_true]
  exact fun c hc => (hchars c (hmem c hc)).1

theorem ofText_columnsTag (n : Nat) : StartTag.ofText? (Fragment.columnsTag n) =
    some ⟨"tgroup".toList, [⟨"cols".toList, '\'', decimal n⟩, ⟨"align".toList, '\'', "left".toList⟩,
      ⟨"colsep".toList, '\'', "1".toList⟩, ⟨"rowsep".toList, '\'', "1".toList⟩]⟩ := by
  have hread : StartTag.ofText? (Fragment.columnsTag n) =
      StartTag.readFrom (.inValue "cols".toList '\'' []) ⟨"tgroup".toList, []⟩
        (decimal n ++ '\'' :: " align='left' colsep='1' rowsep='1'".toList) := rfl
  rw [StartTag.readFrom_inValue (Fragment.notMem_decimal (by decide) n)] at hread
  exact hread.trans rfl

theorem plain_columnsTag (n : Nat) : Plain (Fragment.columnsTag n) := by
  have hdigits : ∀ c ∈ "0123456789".toList, isDocumentChar c = true ∧ c ∉ reserved ∧ c ≠ '\'' :=
    Text.forall_of_all (by decide)
  have hquote : '\'' ∉ decimal n := fun h => (hdigits _ (mem_digits h)).2.2 rfl
  have hname : isName "tgroup".toList = true := by decide
  have hkey : isName "cols".toList = true := by decide
  have hother : "tgroup".toList ≠ "article".toList ∧ "tgroup".toList ≠ "graphic".toList ∧
      "tgroup".toList ≠ "ulink".toList := by decide
  refine ⟨_, ofText_columnsTag n, ⟨hname, ?_, ?_⟩, hother⟩
  · intro a ha
    simp only [List.mem_cons, List.not_mem_nil, or_false] at ha
    rcases ha with rfl | rfl | rfl | rfl
    · exact wellFormed_value hkey hquote (fun c hc h => (hdigits c (mem_digits h)).2.1 hc)
        fun c hc => (hdigits c (mem_digits hc)).1
    all_goals exact wellFormed_value (by decide) (by decide) (Text.forall_of_all (by decide)) (Text.forall_of_all (by decide))
  · have hnodup : ["cols".toList, "align".toList, "colsep".toList, "rowsep".toList].Nodup := by decide
    exact hnodup

theorem plain_containerName (kind : Container) : Plain kind.name := by
  cases kind with
  | paragraph => exact plain_name (by decide) (Text.forall_of_all (by decide)) (by decide)
  | list kind => cases kind <;> exact plain_name (by decide) (Text.forall_of_all (by decide)) (by decide)

theorem plain_spanTag (k : Emphasis) : Plain (Mark.spanTag k) := by
  cases k with
  | bold => exact plain_bold
  | italic => exact plain_name (by decide) (Text.forall_of_all (by decide)) (by decide)
  | literal => exact plain_name (by decide) (Text.forall_of_all (by decide)) (by decide)

/-! ### Tags of marked-up text -/

theorem linkUrlsOf_spanned {ms ns : List Mark} (h : Mark.Spanned ms ns) : linkUrlsOf ns = linkUrlsOf ms := by
  induction h with
  | refl => rfl
  | span _ _ ih =>
    rw [← ih]
    simp [linkUrlsOf]

theorem tagged_marks (ms : List Mark) : Tagged (startTags (tokens (Mark.textOf ms))) [] (linkUrlsOf ms) := by
  induction ms with
  | nil => exact Tagged.nil
  | cons m ms ih =>
    rw [Mark.tokens_textOf_cons, startTags_append]
    cases m with
    | char c =>
      rw [tokens_char_text, startTags_chars]
      exact ih
    | linkStart url =>
      rw [tokens_linkStart]
      exact ih.link url
    | linkStop =>
      rw [tokens_linkStop]
      exact ih
    | start k =>
      rw [Mark.tokens_start]
      exact ih.plain (plain_spanTag k)
    | stop k =>
      rw [Mark.tokens_stop]
      exact ih

theorem tagged_markUp (t : Text) : Tagged (startTags (tokens (markUp t))) [] (linkUrls t) := by
  obtain ⟨ms, hms, hspan⟩ := exists_marks t
  have := tagged_marks ms
  rw [linkUrlsOf_spanned hspan] at this
  rw [hms]
  exact this

/-! ### Tags of fragments -/

/-- The urls of the links in the source text that a fragment holds. -/
def fragmentUrls : Fragment → List Text
  | .title source | .paragraphLine source | .item source => linkUrls source
  | .row cells => cells.flatMap linkUrls
  | _ => []

/-- The reference of the picture that a fragment shows, if it shows one. -/
def fragmentFilerefs : Fragment → List Text
  | .graphic fileref => [fileref]
  | _ => []

/-- The names of the elements inside blocks and sections. -/
def innerNames : List Text :=
  ["title".toList, "listitem".toList, "para".toList, "tbody".toList, "row".toList, "entry".toList, "screen".toList]

theorem plain_inner {n : Text} (hn : n ∈ innerNames) : Plain n := by
  have hall : ∀ n ∈ innerNames, isName n = true ∧ n.all (fun c => decide (isTagSpace c = false)) = true ∧
      n ≠ "article".toList ∧ n ≠ "graphic".toList ∧ n ≠ "ulink".toList := by decide
  obtain ⟨hname, hspace, hother⟩ := hall n hn
  exact plain_name hname (Text.forall_of_all hspace) hother

theorem tagged_entries (cells : List Text) :
    Tagged (startTags (cells.flatMap Fragment.entryTokens)) [] (cells.flatMap linkUrls) := by
  induction cells with
  | nil => exact Tagged.nil
  | cons cell cells ih =>
    have hcell := (tagged_markUp cell).plain (plain_inner (n := "entry".toList) (by decide))
    have := hcell.append ih
    simpa only [List.flatMap_cons, Fragment.entryTokens, List.cons_append, List.append_assoc, startTags_append,
      startTags_start, startTags_stop, startTags_char, List.nil_append] using this

theorem tagged_fragment (f : Fragment) : Tagged (startTags f.tokens) (fragmentFilerefs f) (fragmentUrls f) := by
  cases f with
  | sectionStart k => exact Tagged.nil.plain (plain_sectionName k)
  | containerStart kind => exact Tagged.nil.plain (plain_containerName kind)
  | title source =>
    have := (tagged_markUp source).plain (plain_inner (n := "title".toList) (by decide))
    simpa only [Fragment.tokens, List.cons_append, startTags_append, startTags_start, startTags_stop, startTags_char,
      startTags_nil, List.append_nil, fragmentFilerefs, fragmentUrls] using this
  | paragraphLine source =>
    have := tagged_markUp source
    simpa only [Fragment.tokens, startTags_append, startTags_char, startTags_nil, List.append_nil, fragmentFilerefs,
      fragmentUrls] using this
  | item source =>
    have := ((tagged_markUp source).plain (plain_inner (n := "para".toList) (by decide))).plain
      (plain_inner (n := "listitem".toList) (by decide))
    simpa only [Fragment.tokens, List.cons_append, startTags_append, startTags_start, startTags_stop, startTags_char,
      startTags_nil, List.append_nil, fragmentFilerefs, fragmentUrls] using this
  | graphic fileref => exact Tagged.nil.graphic fileref
  | tableStart columns =>
    have hbody := Tagged.nil.plain (plain_inner (n := "tbody".toList) (by decide))
    have htitle := (hbody.plain (plain_columnsTag columns)).plain (plain_inner (n := "title".toList) (by decide))
    exact htitle.plain plain_table
  | row cells =>
    have := (tagged_entries cells).plain (plain_inner (n := "row".toList) (by decide))
    simpa only [Fragment.tokens, List.cons_append, startTags_append, startTags_start, startTags_stop, startTags_char,
      startTags_nil, List.append_nil, fragmentFilerefs, fragmentUrls] using this
  | screenStart => exact Tagged.nil.plain (plain_inner (n := "screen".toList) (by decide))
  | screenLine source =>
    rw [Fragment.tokens, startTags_append, startTags_chars]
    exact Tagged.nil
  | _ => exact Tagged.nil

theorem tagged_fragments (fs : List Fragment) :
    Tagged (startTags (fs.flatMap Fragment.tokens)) (fs.flatMap fragmentFilerefs) (fs.flatMap fragmentUrls) := by
  induction fs with
  | nil => exact Tagged.nil
  | cons f fs ih =>
    rw [List.flatMap_cons, List.flatMap_cons, List.flatMap_cons, startTags_append]
    exact (tagged_fragment f).append ih

/-! ### Tags of trees -/

section Tree

variable {α : Type} {g : Fragment → List α} {h : Content → List α}

/-- What is read of the fragments that hold content is what is read of the content. -/
structure Agrees (g : Fragment → List α) (h : Content → List α) : Prop where
  line : ∀ kind text, g (lineOf kind text) = h (contentOf kind text)
  row : ∀ cells, g (.row cells) = h (.row cells)
  screenLine : ∀ text, g (.screenLine text) = h (.screenLine text)
  graphic : ∀ fileref, g (.graphic fileref) = h (.graphic fileref)
  title : ∀ level text, g (.title text) = h (.title level text)
  other : ∀ f : Fragment, f.ends ≠ [] ∨ f.begins ≠ [] → g f = []

theorem flatMap_block (hg : Agrees g h) (b : Block) : b.fragments.flatMap g = b.contents.flatMap h := by
  cases b with
  | run kind first more =>
    have hstart : g (.containerStart kind) = [] := hg.other _ (Or.inr (List.cons_ne_nil _ _))
    have hend : g (.containerEnd kind) = [] := hg.other _ (Or.inl (List.cons_ne_nil _ _))
    simp [Block.fragments, Block.contents, List.flatMap_map, hstart, hend, hg.line]
  | table columns first more =>
    have hstart : g (.tableStart columns) = [] := hg.other _ (Or.inr (by simp [Fragment.begins, tableElements]))
    have hend : g .tableEnd = [] := hg.other _ (Or.inl (by simp [Fragment.ends, tableElements]))
    simp [Block.fragments, Block.contents, List.flatMap_map, hstart, hend, hg.row]
  | screen lines =>
    have hstart : g .screenStart = [] := hg.other _ (Or.inr (List.cons_ne_nil _ _))
    have hend : g .screenEnd = [] := hg.other _ (Or.inl (List.cons_ne_nil _ _))
    simp [Block.fragments, Block.contents, List.flatMap_map, hstart, hend, hg.screenLine]
  | graphic fileref => simp [Block.fragments, Block.contents, hg.graphic]

theorem flatMap_blocks (hg : Agrees g h) (bs : List Block) :
    (bs.flatMap Block.fragments).flatMap g = (bs.flatMap Block.contents).flatMap h := by
  induction bs with
  | nil => rfl
  | cons b bs ih =>
    rw [List.flatMap_cons, List.flatMap_cons, List.flatMap_append, List.flatMap_append, flatMap_block hg, ih]

theorem flatMap_outline (hg : Agrees g h) (sections : Outline) (k : Nat) :
    (sections.fragments k).flatMap g = (sections.contents k).flatMap h := by
  have hstart (k : Nat) : g (.sectionStart k) = [] := hg.other _ (Or.inr (List.cons_ne_nil _ _))
  have hend (k : Nat) (next : Outline) : g (next.ending k) = [] := by
    cases next <;> exact hg.other _ (Or.inl (List.cons_ne_nil _ _))
  induction sections generalizing k with
  | nil => rfl
  | titled title blocks inside next hinside hnext =>
    simp [Outline.fragments, Outline.contents, hstart, hend, hg.title k, flatMap_blocks hg, hinside, hnext]
  | skipped inside next hinside hnext =>
    simp [Outline.fragments, Outline.contents, hstart, hend, hinside, hnext]

theorem flatMap_tree (hg : Agrees g h) (t : Tree) : t.fragments.flatMap g = t.contents.flatMap h := by
  rw [Tree.fragments, Tree.contents, List.flatMap_append, List.flatMap_append, flatMap_blocks hg, flatMap_outline hg]

end Tree

theorem agrees_urls : Agrees fragmentUrls Content.urls where
  line := by intro kind text; cases kind <;> rfl
  row _ := rfl
  screenLine _ := rfl
  graphic _ := rfl
  title _ _ := rfl
  other := by intro f hf; cases f <;> first | rfl | simp [Fragment.ends, Fragment.begins] at hf

theorem agrees_filerefs : Agrees fragmentFilerefs Content.filerefs where
  line := by intro kind text; cases kind <;> rfl
  row _ := rfl
  screenLine _ := rfl
  graphic _ := rfl
  title _ _ := rfl
  other := by intro f hf; cases f <;> first | rfl | simp [Fragment.ends, Fragment.begins] at hf

/-- The tags of a body hold the references and urls that its lines make, in their order. -/
theorem tagged_ofLines (base : Option Text) (lines : List Text) :
    Tagged (startTags (tokens (ofLines base lines))) (filerefs base lines) (urls base lines) := by
  obtain ⟨t, -, hfragments, hcontents⟩ := exists_tree base lines
  have := tagged_fragments t.fragments
  rw [flatMap_tree agrees_filerefs, flatMap_tree agrees_urls] at this
  rwa [ofLines, hfragments, (Fragment.cut_textOf t.fragments).2, filerefs, urls, hcontents]

/-! ### Values -/

/-- The text can be an attribute value between double quotes. -/
structure Clean (t : Text) : Prop where
  quote : '"' ∉ t
  chars : ∀ c ∈ t, isDocumentChar c = true

section Source

variable {front name key : Text} (hfront : StartTag.Begun front name key)
include hfront

theorem isStartTag_source (hname : isName name = true) (hkey : isName key = true) {t : Text} (h : Clean t) :
    IsStartTag (front ++ escape t ++ ['"']) := by
  have hquote : '"' ∉ escape t := fun hmem => h.quote ((mem_escape_iff (by decide) (by decide)).mp hmem)
  refine ⟨_, StartTag.ofText_quoted hfront hquote, hname, ?_, List.pairwise_singleton _ key⟩
  intro a ha
  obtain rfl := List.mem_singleton.mp ha
  exact StartTag.wellFormed_escape hkey h.quote h.chars

theorem clean_of_isStartTag {t : Text} (h : IsStartTag (front ++ escape t ++ ['"']))
    (hread : t.takeWhile (· != '"') = t) : Clean t := by
  have hquote := StartTag.quote_notMem_of_takeWhile hread
  have hquote' : '"' ∉ escape t := fun hmem => hquote ((mem_escape_iff (by decide) (by decide)).mp hmem)
  obtain ⟨tag, htag, hwell⟩ := h
  rw [StartTag.ofText_quoted hfront hquote'] at htag
  cases htag
  exact ⟨hquote, StartTag.isDocumentChar_of_escape (hwell.attributes _ List.mem_cons_self).chars⟩

/-- What can be read of a value is its source up to the first quote. -/
theorem valuesOf_source {t : Text} {tag : StartTag} (htag : StartTag.ofText? (front ++ escape t ++ ['"']) = some tag)
    (tags : List Text) :
    valuesOf name key ((front ++ escape t ++ ['"']) :: tags) = t.takeWhile (· != '"') :: valuesOf name key tags := by
  obtain ⟨hname, hvalue⟩ := StartTag.value_of_ofText hfront htag
  refine List.filterMap_cons_some ?_
  rw [htag, Option.bind_some, if_pos hname, hvalue, Option.map_some, StartTag.decode_takeWhile_escape]

theorem valuesOf_other {element : Text} (helement : name ≠ element) (t other : Text) (tags : List Text) :
    valuesOf element other ((front ++ escape t ++ ['"']) :: tags) = valuesOf element other tags := by
  refine List.filterMap_cons_none ?_
  cases htag : StartTag.ofText? (front ++ escape t ++ ['"']) with
  | none => rfl
  | some tag =>
    obtain ⟨hname, -⟩ := StartTag.value_of_ofText hfront htag
    rw [Option.bind_some, if_neg (hname ▸ helement)]

end Source

theorem begun_graphic : StartTag.Begun "graphic fileref=\"".toList "graphic".toList "fileref".toList := fun _ => rfl

theorem begun_link : StartTag.Begun "ulink url=\"".toList "ulink".toList "url".toList := fun _ => rfl

theorem linkTag_eq (url : Text) : Mark.linkTag url = "ulink url=\"".toList ++ escape url ++ ['"'] := rfl

theorem valuesOf_plain {inside element : Text} (h : Plain inside)
    (helement : element ∈ ["article".toList, "graphic".toList, "ulink".toList]) (key : Text) (tags : List Text) :
    valuesOf element key (inside :: tags) = valuesOf element key tags := by
  obtain ⟨tag, htag, -, harticle, hgraphic, hlink⟩ := h
  have hname : tag.name ≠ element := by
    simp only [List.mem_cons, List.not_mem_nil, or_false] at helement
    rcases helement with rfl | rfl | rfl
    · exact harticle
    · exact hgraphic
    · exact hlink
  refine List.filterMap_cons_none ?_
  rw [htag, Option.bind_some, if_neg hname]

/-! ### Values of tags in order -/

theorem Tagged.isStartTag {tags fs us : List Text} (h : Tagged tags fs us) (hfs : ∀ f ∈ fs, Clean f)
    (hus : ∀ u ∈ us, Clean u) : ∀ inside ∈ tags, IsStartTag inside := by
  induction h with
  | nil => nofun
  | plain hplain _ ih =>
    obtain ⟨tag, htag, hwell, -⟩ := hplain
    exact List.forall_mem_cons.mpr ⟨⟨tag, htag, hwell⟩, ih hfs hus⟩
  | graphic f _ ih =>
    obtain ⟨hf, hfs⟩ := List.forall_mem_cons.mp hfs
    exact List.forall_mem_cons.mpr ⟨isStartTag_source begun_graphic (by decide) (by decide) hf, ih hfs hus⟩
  | link u _ ih =>
    obtain ⟨hu, hus⟩ := List.forall_mem_cons.mp hus
    exact List.forall_mem_cons.mpr ⟨isStartTag_source begun_link (by decide) (by decide) hu, ih hfs hus⟩

theorem Tagged.graphicTag_mem {tags fs us : List Text} (h : Tagged tags fs us) :
    ∀ f ∈ fs, Fragment.graphicTag f ∈ tags := by
  induction h with
  | nil => nofun
  | plain _ _ ih => exact fun f hf => List.mem_cons_of_mem _ (ih f hf)
  | graphic f _ ih => exact List.forall_mem_cons.mpr ⟨List.mem_cons_self, fun g hg => List.mem_cons_of_mem _ (ih g hg)⟩
  | link u _ ih => exact fun f hf => List.mem_cons_of_mem _ (ih f hf)

theorem Tagged.linkTag_mem {tags fs us : List Text} (h : Tagged tags fs us) : ∀ u ∈ us, Mark.linkTag u ∈ tags := by
  induction h with
  | nil => nofun
  | plain _ _ ih => exact fun u hu => List.mem_cons_of_mem _ (ih u hu)
  | graphic f _ ih => exact fun u hu => List.mem_cons_of_mem _ (ih u hu)
  | link u _ ih => exact List.forall_mem_cons.mpr ⟨List.mem_cons_self, fun v hv => List.mem_cons_of_mem _ (ih v hv)⟩

theorem Tagged.valuesOf_language {tags fs us : List Text} (h : Tagged tags fs us) :
    valuesOf "article".toList "lang".toList tags = [] := by
  induction h with
  | nil => rfl
  | plain hplain _ ih => rw [valuesOf_plain hplain (by decide), ih]
  | graphic f _ ih => rw [Fragment.graphicTag_eq, valuesOf_other begun_graphic (by decide), ih]
  | link u _ ih => rw [linkTag_eq, valuesOf_other begun_link (by decide), ih]

theorem Tagged.valuesOf_fileref {tags fs us : List Text} (h : Tagged tags fs us)
    (hfs : ∀ f ∈ fs, IsStartTag (Fragment.graphicTag f)) :
    valuesOf "graphic".toList "fileref".toList tags = fs.map (List.takeWhile (· != '"')) := by
  induction h with
  | nil => rfl
  | plain hplain _ ih => rw [valuesOf_plain hplain (by decide), ih hfs]
  | graphic f _ ih =>
    obtain ⟨⟨tag, htag, -⟩, hfs⟩ := List.forall_mem_cons.mp hfs
    rw [Fragment.graphicTag_eq] at htag ⊢
    rw [valuesOf_source begun_graphic htag, ih hfs, List.map_cons]
  | link u _ ih => rw [linkTag_eq, valuesOf_other begun_link (by decide), ih hfs]

/-- The urls of links can be read in the tags, whatever the tags of the pictures are. -/
theorem Tagged.valuesOf_url {tags fs us : List Text} (h : Tagged tags fs us) (hus : ∀ u ∈ us, '"' ∉ u) :
    valuesOf "ulink".toList "url".toList tags = us := by
  induction h with
  | nil => rfl
  | plain hplain _ ih => rw [valuesOf_plain hplain (by decide), ih hus]
  | graphic f _ ih => rw [Fragment.graphicTag_eq, valuesOf_other begun_graphic (by decide), ih hus]
  | link u _ ih =>
    obtain ⟨hu, hus⟩ := List.forall_mem_cons.mp hus
    have hquote : '"' ∉ escape u := fun hmem => hu ((mem_escape_iff (by decide) (by decide)).mp hmem)
    rw [linkTag_eq, valuesOf_source begun_link (StartTag.ofText_quoted begun_link hquote),
      StartTag.takeWhile_of_notMem hu, ih hus]

/-! ### Urls -/

theorem quote_notMem_linkUrls {t url : Text} (h : url ∈ linkUrls t) : '"' ∉ url := by
  induction hn : t.length using Nat.strongRecOn generalizing t with
  | _ n ih =>
    subst hn
    cases t with
    | nil =>
      rw [linkUrls, linkMarks] at h
      cases h
    | cons c t =>
      by_cases hc : c = '[' ∧ ']' ∈ t
      · obtain ⟨rfl, hclose⟩ := hc
        have hspan : linkUrls ('[' :: t) = linkUrl (insideLink t) :: linkUrls (behindLink t) := by
          rw [linkUrls, linkMarks_span hclose]
          simp [linkUrlsOf, linkUrls]
        rw [hspan] at h
        rcases List.mem_cons.mp h with rfl | h
        · intro hquote
          have := List.all_eq_true.mp List.all_takeWhile _ hquote
          simp [isUrlChar] at this
        · exact ih _ (Nat.lt_succ_of_lt (length_behindLink hclose)) h rfl
      · have hchar : linkUrls (c :: t) = linkUrls t := by
          rw [linkUrls, linkMarks_char hc]
          rfl
        rw [hchar] at h
        exact ih _ (Nat.lt_succ_self _) h rfl

theorem quote_notMem_urls {base : Option Text} {lines : List Text} {url : Text} (h : url ∈ urls base lines) :
    '"' ∉ url := by
  obtain ⟨content, -, h⟩ := List.mem_flatMap.mp h
  cases content with
  | title level text => exact quote_notMem_linkUrls h
  | item kind text => exact quote_notMem_linkUrls h
  | paragraphLine text => exact quote_notMem_linkUrls h
  | graphic fileref => cases h
  | row cells =>
    obtain ⟨cell, -, h⟩ := List.mem_flatMap.mp h
    exact quote_notMem_linkUrls h
  | screenLine text => cases h

end Body
end WikiArticle
