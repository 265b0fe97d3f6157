import WikiArticle.Body.Fragment
import WikiArticle.Proofs.Inline.Grammar

/-! How fragments are written: the text of each, and the characters and tags that its text is cut into. -/

namespace WikiArticle
namespace Fragment
open Markup Inline

/-! ### Text -/

/-- The text of one fragment. -/
def text (f : Fragment) : Text := Piece.textOf f.pieces

theorem textOf_cons (f : Fragment) (fs : List Fragment) : textOf (f :: fs) = f.text ++ textOf fs := by
  simp [textOf, text]

theorem textOf_map {α : Type} (l : List α) (g : α → Fragment) : textOf (l.map g) = l.flatMap fun a => (g a).text := by
  induction l with
  | nil => rfl
  | cons a l ih => rw [List.map_cons, textOf_cons, ih, List.flatMap_cons]

theorem text_sectionStart (k : Nat) : (sectionStart k).text = WikiArticle.startTag (sectionName k) ++ [' '] := by
  simp [text, pieces, Piece.text]

theorem text_sectionEnd (k : Nat) : (sectionEnd k).text = WikiArticle.endTag (sectionName k) ++ ['\n'] := by
  simp [text, pieces, Piece.text]

theorem text_sectionTurn (k : Nat) : (sectionTurn k).text = WikiArticle.endTag (sectionName k) ++ [' '] := by
  simp [text, pieces, Piece.text]

theorem text_title (source : Text) :
    (title source).text = "<title>".toList ++ markUp source ++ "</title>\n".toList := by
  simp [text, pieces, Piece.text]

theorem text_containerStart (kind : Container) :
    (containerStart kind).text = WikiArticle.startTag kind.name ++ [' '] := by
  simp [text, pieces, Piece.text]

theorem text_containerEnd (kind : Container) :
    (containerEnd kind).text = WikiArticle.endTag kind.name ++ ['\n'] := by
  simp [text, pieces, Piece.text]

theorem text_paragraphLine (source : Text) : (paragraphLine source).text = markUp source ++ ['\n'] := by
  simp [text, pieces, Piece.text]

theorem text_item (source : Text) :
    (item source).text = "<listitem><para>".toList ++ markUp source ++ "</para></listitem>\n".toList := by
  simp [text, pieces, Piece.text]

theorem text_graphic (fileref : Text) :
    (graphic fileref).text = "<graphic fileref=\"".toList ++ escape fileref ++ "\"></graphic>\n".toList := by
  simp [text, pieces, Piece.text]

theorem text_tableStart (columns : Nat) : (tableStart columns).text =
    "<table frame='all'><title></title> <tgroup cols='".toList ++ decimal columns
      ++ "' align='left' colsep='1' rowsep='1'> <tbody>\n".toList := by
  simp [text, pieces, Piece.text]

theorem entry_eq (cell : Text) : entry cell = "<entry>".toList ++ markUp cell ++ "</entry>".toList := rfl

theorem text_row (cells : List Text) : (row cells).text = "<row> ".toList
    ++ cells.flatMap (fun cell => "<entry>".toList ++ markUp cell ++ "</entry> ".toList) ++ "</row>\n".toList := by
  simp [text, pieces, Piece.text, Piece.textOf, entry_eq, List.flatMap_map]

theorem text_tableEnd : tableEnd.text = "</tbody></tgroup></table>\n".toList := rfl

theorem text_screenStart : screenStart.text = "<screen>\n".toList := rfl

theorem text_screenLine (source : Text) : (screenLine source).text = escape source ++ ['\n'] := by
  simp [text, pieces, Piece.text]

theorem text_screenEnd : screenEnd.text = "</screen>\n".toList := rfl

/-! ### Tokens -/

open Token

/-- What stands between the brackets of the tag that starts a picture. -/
def graphicTag (fileref : Text) : Text := "graphic fileref=\"".toList ++ escape fileref ++ ['"']

/-- What stands between the brackets of the tag that starts the columns of a table. -/
def columnsTag (columns : Nat) : Text :=
  "tgroup cols='".toList ++ decimal columns ++ "' align='left' colsep='1' rowsep='1'".toList

theorem graphicTag_eq (fileref : Text) :
    graphicTag fileref = "graphic fileref=\"".toList ++ escape fileref ++ ['"'] := rfl

theorem columnsTag_eq (columns : Nat) : columnsTag columns =
    "tgroup cols='".toList ++ decimal columns ++ "' align='left' colsep='1' rowsep='1'".toList := rfl

/-- What a cell of a row is cut into. -/
def entryTokens (cell : Text) : List Token :=
  start "entry".toList :: Markup.tokens (markUp cell) ++ [stop "entry".toList, char ' ']

/-- What the text of a fragment is cut into. -/
def tokens : Fragment → List Token
  | sectionStart level => [start (sectionName level), char ' ']
  | sectionEnd level => [stop (sectionName level), char '\n']
  | sectionTurn level => [stop (sectionName level), char ' ']
  | title source => start "title".toList :: Markup.tokens (markUp source) ++ [stop "title".toList, char '\n']
  | containerStart kind => [start kind.name, char ' ']
  | containerEnd kind => [stop kind.name, char '\n']
  | paragraphLine source => Markup.tokens (markUp source) ++ [char '\n']
  | item source => start "listitem".toList :: start "para".toList :: Markup.tokens (markUp source)
    ++ [stop "para".toList, stop "listitem".toList, char '\n']
  | graphic fileref => [start (graphicTag fileref), stop "graphic".toList, char '\n']
  | tableStart columns => [start "table frame='all'".toList, start "title".toList, stop "title".toList, char ' ',
    start (columnsTag columns), char ' ', start "tbody".toList, char '\n']
  | row cells => start "row".toList :: char ' ' :: cells.flatMap entryTokens ++ [stop "row".toList, char '\n']
  | tableEnd => [stop "tbody".toList, stop "tgroup".toList, stop "table".toList, char '\n']
  | screenStart => [start "screen".toList, char '\n']
  | screenLine source => (escape source).map char ++ [char '\n']
  | screenEnd => [stop "screen".toList, char '\n']

theorem notMem_decimal {c : Char} (hc : c.isDigit = false) (n : Nat) : c ∉ decimal n := fun h => by
  have := Nat.isDigit_of_mem_toDigits (by decide) (by decide) h
  rw [hc] at this
  cases this

theorem notMem_sectionName {c : Char} (hc : c ∉ "sect".toList) (hd : c.isDigit = false) (k : Nat) :
    c ∉ sectionName k := by
  simp only [sectionName, List.mem_append, hc, notMem_decimal hd k, or_false, not_false_eq_true]

theorem notMem_containerName (kind : Container) : ' ' ∉ kind.name ∧ '>' ∉ kind.name := by
  cases kind with
  | paragraph => decide
  | list kind => cases kind <;> decide

theorem gt_notMem_graphicTag (fileref : Text) : '>' ∉ graphicTag fileref :=
  gt_notMem_quoted "graphic fileref=\"".toList (by decide) fileref

theorem gt_notMem_columnsTag (columns : Nat) : '>' ∉ columnsTag columns := by
  have hname : '>' ∉ "tgroup cols='".toList := by decide
  have hdigits : '>' ∉ decimal columns := notMem_decimal (by decide) columns
  have hrest : '>' ∉ "' align='left' colsep='1' rowsep='1'".toList := by decide
  unfold columnsTag
  simp only [List.mem_append, hname, hdigits, hrest, or_false, not_false_eq_true]

theorem cut_startTag {name : Text} (hname : '>' ∉ name) (htag : ofTag name = start name) :
    Cut (WikiArticle.startTag name) [start name] := by
  have := cut_tag hname
  rwa [htag] at this

theorem cut_endTag {name : Text} (hname : '>' ∉ name) : Cut (WikiArticle.endTag name) [stop name] :=
  cut_tag (w := '/' :: name) (by simpa using hname)

theorem cut_markUp (source : Text) : Cut (markUp source) (Markup.tokens (markUp source)) :=
  ⟨(nested_markUp source).1, rfl⟩

theorem cut_space : Cut [' '] [char ' '] := by decide

theorem cut_lineEnd : Cut ['\n'] [char '\n'] := by decide

theorem cut_entries (cells : List Text) :
    Cut (cells.flatMap fun cell => "<entry>".toList ++ markUp cell ++ "</entry> ".toList)
      (cells.flatMap entryTokens) := by
  induction cells with
  | nil => exact ⟨whole_nil, rfl⟩
  | cons cell cells ih =>
    have hstart : Cut "<entry>".toList [start "entry".toList] := by decide
    have hstop : Cut "</entry> ".toList [stop "entry".toList, char ' '] := by decide
    have := ((hstart.append (cut_markUp cell)).append hstop).append ih
    rwa [List.flatMap_cons, List.flatMap_cons]

theorem cut_text (f : Fragment) : Cut f.text f.tokens := by
  cases f with
  | sectionStart k =>
    rw [text_sectionStart]
    exact (cut_startTag (notMem_sectionName (by decide) (by decide) k) rfl).append cut_space
  | sectionEnd k =>
    rw [text_sectionEnd]
    exact (cut_endTag (notMem_sectionName (by decide) (by decide) k)).append cut_lineEnd
  | sectionTurn k =>
    rw [text_sectionTurn]
    exact (cut_endTag (notMem_sectionName (by decide) (by decide) k)).append cut_space
  | title source =>
    have hstart : Cut "<title>".toList [start "title".toList] := by decide
    have hstop : Cut "</title>\n".toList [stop "title".toList, char '\n'] := by decide
    rw [text_title]
    exact (hstart.append (cut_markUp source)).append hstop
  | containerStart kind =>
    have htag : ofTag kind.name = start kind.name := by
      cases kind with
      | paragraph => rfl
      | list kind => cases kind <;> rfl
    rw [text_containerStart]
    exact (cut_startTag (notMem_containerName kind).2 htag).append cut_space
  | containerEnd kind =>
    rw [text_containerEnd]
    exact (cut_endTag (notMem_containerName kind).2).append cut_lineEnd
  | paragraphLine source =>
    rw [text_paragraphLine]
    exact (cut_markUp source).append cut_lineEnd
  | item source =>
    have hstart : Cut "<listitem><para>".toList [start "listitem".toList, start "para".toList] := by decide
    have hstop : Cut "</para></listitem>\n".toList [stop "para".toList, stop "listitem".toList, char '\n'] := by
      decide
    rw [text_item]
    exact (hstart.append (cut_markUp source)).append hstop
  | graphic fileref =>
    have hstop : Cut "</graphic>\n".toList [stop "graphic".toList, char '\n'] := by decide
    have htext : (graphic fileref).text = WikiArticle.startTag (graphicTag fileref) ++ "</graphic>\n".toList := by
      rw [text_graphic]
      simp [WikiArticle.startTag, graphicTag_eq]
    rw [htext]
    exact (cut_startTag (gt_notMem_graphicTag fileref) rfl).append hstop
  | tableStart columns =>
    have htable : Cut "<table frame='all'><title></title> ".toList
        [start "table frame='all'".toList, start "title".toList, stop "title".toList, char ' '] := by decide
    have hbody : Cut " <tbody>\n".toList [char ' ', start "tbody".toList, char '\n'] := by decide
    have htext : (tableStart columns).text = "<table frame='all'><title></title> ".toList
        ++ WikiArticle.startTag (columnsTag columns) ++ " <tbody>\n".toList := by
      rw [text_tableStart]
      simp [WikiArticle.startTag, columnsTag_eq]
    rw [htext]
    exact (htable.append (cut_startTag (gt_notMem_columnsTag columns) rfl)).append hbody
  | row cells =>
    have hstart : Cut "<row> ".toList [start "row".toList, char ' '] := by decide
    have hstop : Cut "</row>\n".toList [stop "row".toList, char '\n'] := by decide
    rw [text_row]
    exact (hstart.append (cut_entries cells)).append hstop
  | tableEnd => decide
  | screenStart => decide
  | screenLine source =>
    rw [text_screenLine]
    exact (cut_chars (lt_notMem_escape source)).append cut_lineEnd
  | screenEnd => decide

theorem cut_textOf (fs : List Fragment) : Cut (textOf fs) (fs.flatMap tokens) := by
  induction fs with
  | nil => exact ⟨whole_nil, rfl⟩
  | cons f fs ih =>
    rw [textOf_cons, List.flatMap_cons]
    exact (cut_text f).append ih

end Fragment
end WikiArticle
