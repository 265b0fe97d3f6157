import WikiArticle.Proofs.Body.Written

/-! The names of the elements that begin in the text of each fragment. Marked-up text begins no elements but those
    of links and spans, so what is written for a block begins just the elements of that block. -/

namespace WikiArticle
open Markup Inline

namespace Markup

/-- Every element that begins among the tokens has one of the names. -/
def Named (names : List Text) (ts : List Token) : Prop := ∀ tag, Token.start tag ∈ ts → elementName tag ∈ names

variable {names : List Text} {ts us : List Token}

theorem named_nil (names : List Text) : Named names [] := nofun

theorem Named.append (ht : Named names ts) (hu : Named names us) : Named names (ts ++ us) := fun tag htag =>
  (List.mem_append.mp htag).elim (ht tag) (hu tag)

theorem Named.char (c : Char) (h : Named names ts) : Named names (.char c :: ts) := fun tag htag =>
  (List.mem_cons.mp htag).elim nofun (h tag)

theorem Named.stop (name : Text) (h : Named names ts) : Named names (.stop name :: ts) := fun tag htag =>
  (List.mem_cons.mp htag).elim nofun (h tag)

theorem Named.start {tag : Text} (htag : elementName tag ∈ names) (h : Named names ts) :
    Named names (.start tag :: ts) := by
  intro other hother
  rcases List.mem_cons.mp hother with ⟨⟨⟩⟩ | hother
  · exact htag
  · exact h other hother

theorem named_chars (names : List Text) (t : Text) : Named names (t.map .char) := by
  intro tag htag
  obtain ⟨c, -, hc⟩ := List.mem_map.mp htag
  cases hc

end Markup

/-- The names of the elements of links and spans. -/
def inlineNames : List Text := ["ulink".toList, "emphasis".toList, "literal".toList]

theorem named_markUp (source : Text) : Named inlineNames (Markup.tokens (markUp source)) := by
  obtain ⟨ms, hms, -⟩ := exists_marks source
  rw [hms]
  clear hms
  induction ms with
  | nil => exact named_nil _
  | cons m ms ih =>
    rw [Mark.tokens_textOf_cons]
    refine Named.append ?_ ih
    cases m with
    | char c =>
      rw [tokens_char_text]
      exact named_chars _ _
    | linkStart url =>
      rw [tokens_linkStart]
      exact (named_nil _).start (by rw [elementName_linkTag]; decide)
    | linkStop =>
      rw [tokens_linkStop]
      exact (named_nil _).stop _
    | start k =>
      rw [Mark.tokens_start]
      exact (named_nil _).start (by cases k <;> decide)
    | stop k =>
      rw [Mark.tokens_stop]
      exact (named_nil _).stop _

theorem named_inside (outer : List Text) (source : Text) : Named (outer ++ inlineNames) (Markup.tokens (markUp source)) :=
  fun tag htag => List.mem_append_right outer (named_markUp source tag htag)

namespace Fragment

/-- The names of the elements that can begin in the text of a fragment. -/
def names : Fragment → List Text
  | sectionStart level => [sectionName level]
  | title _ => "title".toList :: inlineNames
  | containerStart kind => [kind.name]
  | paragraphLine _ => inlineNames
  | item _ => "listitem".toList :: "para".toList :: inlineNames
  | graphic _ => ["graphic".toList]
  | tableStart _ => ["table".toList, "title".toList, "tgroup".toList, "tbody".toList]
  | row _ => "row".toList :: "entry".toList :: inlineNames
  | screenStart => ["screen".toList]
  | sectionEnd _ | sectionTurn _ | containerEnd _ | tableEnd | screenLine _ | screenEnd => []

theorem named_entries (cells : List Text) :
    Named ("row".toList :: "entry".toList :: inlineNames) (cells.flatMap entryTokens) := by
  induction cells with
  | nil => exact named_nil _
  | cons cell cells ih =>
    have hcell := named_inside ["row".toList, "entry".toList] cell
    rw [List.flatMap_cons]
    exact ((hcell.append (((named_nil _).char ' ').stop "entry".toList)).start (by decide)).append ih

theorem named_tokens (f : Fragment) : Named f.names f.tokens := by
  have hfeed (names : List Text) : Named names [.char '\n'] := (named_nil names).char '\n'
  cases f with
  | sectionStart k =>
    refine ((named_nil _).char ' ').start ?_
    rw [elementName_of_notMem (notMem_sectionName (by decide) (by decide) k)]
    exact List.mem_singleton_self _
  | containerStart kind =>
    refine ((named_nil _).char ' ').start ?_
    rw [elementName_of_notMem (notMem_containerName kind).1]
    exact List.mem_singleton_self _
  | title source =>
    have htext := named_inside ["title".toList] source
    exact (htext.append ((hfeed _).stop _)).start List.mem_cons_self
  | paragraphLine source => exact (named_markUp source).append (hfeed _)
  | item source =>
    have htext := named_inside ["listitem".toList, "para".toList] source
    exact ((htext.append (((hfeed _).stop _).stop _)).start (by decide)).start List.mem_cons_self
  | graphic fileref => exact ((hfeed _).stop _).start List.mem_cons_self
  | tableStart columns =>
    have hbody : Named ["table".toList, "title".toList, "tgroup".toList, "tbody".toList]
        [.start "tbody".toList, .char '\n'] := (hfeed _).start (by decide)
    have hname : elementName (columnsTag columns) ∈ ["table".toList, "title".toList, "tgroup".toList, "tbody".toList] :=
      List.mem_of_getElem? (i := 2) rfl
    have hgroups := (hbody.char ' ').start hname
    exact (((hgroups.char ' ').stop "title".toList).start (by decide)).start List.mem_cons_self
  | row cells => exact (((named_entries cells).append ((hfeed _).stop _)).char ' ').start List.mem_cons_self
  | tableEnd => exact (((hfeed _).stop _).stop _).stop _
  | screenStart => exact (hfeed _).start (by decide)
  | screenLine source => exact (named_chars _ _).append (hfeed _)
  | sectionEnd k | containerEnd kind | screenEnd => exact (hfeed _).stop _
  | sectionTurn k => exact ((named_nil _).char ' ').stop _

theorem mem_names {fs : List Fragment} {tag : Text} (h : Token.start tag ∈ fs.flatMap tokens) :
    ∃ f ∈ fs, elementName tag ∈ f.names := by
  obtain ⟨f, hf, htag⟩ := List.mem_flatMap.mp h
  exact ⟨f, hf, f.named_tokens tag htag⟩

end Fragment
end WikiArticle
