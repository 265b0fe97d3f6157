import WikiArticle.Proofs.Body.Tree
import WikiArticle.Proofs.Body.Stack
import WikiArticle.Proofs.Markup.Forest
import WikiArticle.Proofs.Text.Lines

/-! What can be read in the text of a body: the titles of its sections, the lines of its paragraphs, the items
    of its lists, its pictures, the rows of its tables and the lines of its literal blocks, in their
    order. They are what the lines of the source contribute, as it is written. -/

namespace WikiArticle
namespace Body
open Markup Inline

/-- What a line contributes, as it is written: marked up, or escaped in a literal block. -/
def Content.written : Content → Content
  | title level text => title level (markUp text)
  | item kind text => item kind (markUp text)
  | paragraphLine text => paragraphLine (markUp text)
  | graphic fileref => graphic fileref
  | row cells => row (cells.map markUp)
  | screenLine text => screenLine (escape text)

/-- What is read where a content is written: a line of a paragraph or of a literal block comes back in the
    pieces between the line feeds in it. -/
def Content.readings : Content → List Content
  | paragraphLine text => (Text.pieces '\n' (markUp text)).map paragraphLine
  | screenLine text => (Text.pieces '\n' (escape text)).map screenLine
  | c => [c.written]

theorem flatMap_readings {cs : List Content} (h : ∀ c ∈ cs, c.readings = [c.written]) :
    cs.flatMap Content.readings = cs.map Content.written := by
  induction cs with
  | nil => rfl
  | cons c cs ih =>
    rw [List.flatMap_cons, h c List.mem_cons_self, ih fun d hd => h d (List.mem_cons_of_mem _ hd), List.map_cons,
      List.singleton_append]

/-! ### Reading -/

/-- The lines behind the first character of a text. -/
def linesBehind (t : Text) : List Text := Text.rawLines (t.drop 1)

/-- What stands between the first quote of a tag and its end, which is another quote. -/
def valueOf (tag : Text) : Text := ((tag.dropWhile (· != '"')).drop 1).dropLast

/-- The texts of the items of a list. -/
def itemTexts (inside : Forest) : List Text :=
  ((inside.elements "listitem".toList).flatMap (Forest.elements "para".toList)).map Forest.text

/-- The rows of a table, by the texts of their entries. -/
def rowTexts (inside : Forest) : List (List Text) :=
  (inside.elements "row".toList).map fun row => (row.elements "entry".toList).map Forest.text

/-- What an element other than a section holds, where so many sections are around it. -/
def contentsOf (depth : Nat) (tag : Text) (inside : Forest) : List Content :=
  let name := elementName tag
  if name = "title".toList then [.title depth inside.text]
  else if name = "para".toList then (linesBehind inside.text).map .paragraphLine
  else if name = "itemizedlist".toList then (itemTexts inside).map (.item .itemized)
  else if name = "orderedlist".toList then (itemTexts inside).map (.item .ordered)
  else if name = "graphic".toList then [.graphic (decode (valueOf tag))]
  else if name = "table".toList then (rowTexts inside).map .row
  else if name = "screen".toList then (linesBehind inside.text).map .screenLine
  else []

/-- What a forest holds, where so many sections are around it. -/
def readFrom (depth : Nat) : Forest → List Content
  | .nil => []
  | .char _ next => readFrom depth next
  | .element tag inside next =>
    (if "sect".toList.isPrefixOf tag then readFrom (depth + 1) inside else contentsOf depth tag inside)
      ++ readFrom depth next

/-- What a text holds, if its elements are all closed in order. -/
def read? (t : Text) : Option (List Content) := (Forest.ofText? t).map (readFrom 0)

theorem readFrom_append (depth : Nat) (f g : Forest) :
    readFrom depth (f.append g) = readFrom depth f ++ readFrom depth g := by
  induction f with
  | nil => rfl
  | char c next ih => rw [Forest.append, readFrom, readFrom, ih]
  | element tag inside next _ ih => rw [Forest.append, readFrom, readFrom, ih, List.append_assoc]

/-! ### Tokens that are read -/

/-- The tokens are those of a forest that holds the contents. -/
def Holds (depth : Nat) (ts : List Token) (cs : List Content) : Prop :=
  ∃ f : Forest, ts = f.tokens ∧ readFrom depth f = cs

variable {depth : Nat} {ts us : List Token} {cs ds : List Content}

theorem holds_nil (depth : Nat) : Holds depth [] [] := ⟨.nil, rfl, rfl⟩

theorem Holds.append (ht : Holds depth ts cs) (hu : Holds depth us ds) : Holds depth (ts ++ us) (cs ++ ds) := by
  obtain ⟨f, rfl, rfl⟩ := ht
  obtain ⟨g, rfl, rfl⟩ := hu
  exact ⟨f.append g, (f.tokens_append g).symm, readFrom_append depth f g⟩

theorem Holds.char (c : Char) (h : Holds depth ts cs) : Holds depth (.char c :: ts) cs := by
  obtain ⟨f, rfl, rfl⟩ := h
  exact ⟨.char c f, rfl, rfl⟩

theorem Holds.section (k : Nat) (h : Holds (depth + 1) ts cs) (hnext : Holds depth us ds) :
    Holds depth (.start (sectionName k) :: (ts ++ .stop (sectionName k) :: us)) (cs ++ ds) := by
  obtain ⟨f, rfl, rfl⟩ := h
  obtain ⟨g, rfl, rfl⟩ := hnext
  have hname : elementName (sectionName k) = sectionName k :=
    elementName_of_notMem (Fragment.notMem_sectionName (by decide) (by decide) k)
  have hsect : "sect".toList.isPrefixOf (sectionName k) = true := rfl
  refine ⟨.element (sectionName k) f g, by rw [Forest.tokens, hname], ?_⟩
  rw [readFrom, if_pos hsect]

/-- An element other than a section, and the line feed behind it. -/
theorem holds_element {tag name : Text} (inside : Forest) (hsect : "sect".toList.isPrefixOf tag = false)
    (hname : elementName tag = name) :
    Holds depth (.start tag :: (inside.tokens ++ [.stop name, .char '\n'])) (contentsOf depth tag inside) := by
  refine ⟨.element tag inside (.char '\n' .nil), by rw [Forest.tokens, hname]; rfl, ?_⟩
  rw [readFrom, hsect]
  exact List.append_nil _

/-! ### Marked-up text -/

theorem exists_markUp_forest (source : Text) :
    ∃ f : Forest, Markup.tokens (markUp source) = f.tokens ∧ f.text = markUp source := by
  obtain ⟨f, hf⟩ := Forest.exists_tokens (nested_markUp source).2
  exact ⟨f, hf, by rw [Forest.text, ← hf, Forest.text_tokens]⟩

/-- Fragments that neither end nor begin an element. -/
theorem exists_forest {fs : List Fragment} (h : ∀ f ∈ fs, f.ends = [] ∧ f.begins = []) :
    ∃ g : Forest, fs.flatMap Fragment.tokens = g.tokens ∧ g.text = Fragment.textOf fs := by
  -- Nothing is left open by the fragments, so their tokens are those of a forest.
  have hopen : openAfter (fs.flatMap Fragment.tokens) [] = some [] := by
    induction fs with
    | nil => rfl
    | cons f fs ih =>
      obtain ⟨hends, hbegins⟩ := h f List.mem_cons_self
      have hf := f.openAfter_tokens []
      rw [hends, hbegins] at hf
      rw [List.flatMap_cons, openAfter_append]
      rw [List.append_nil] at hf
      rw [hf]
      exact ih fun g hg => h g (List.mem_cons_of_mem _ hg)
  obtain ⟨g, hg⟩ := Forest.exists_tokens hopen
  refine ⟨g, hg, ?_⟩
  rw [Forest.text, ← hg, ← (Fragment.cut_textOf fs).2, Forest.text_tokens]

theorem exists_lines_forest (line : Text → Fragment) {written : Text → Text} (c : Char)
    (hinner : ∀ t, (line t).ends = [] ∧ (line t).begins = []) (htext : ∀ t, (line t).text = written t ++ ['\n'])
    (lines : List Text) : ∃ f : Forest, (lines.map line).flatMap Fragment.tokens = f.tokens ∧
    linesBehind (c :: f.text) = (lines.map written).flatMap (Text.pieces '\n') := by
  obtain ⟨f, hf, hwritten⟩ := @exists_forest (lines.map line) fun g hg => by
    obtain ⟨t, -, rfl⟩ := List.mem_map.mp hg
    exact hinner t
  refine ⟨f, hf, ?_⟩
  have hlines : f.text = (lines.map written).flatMap fun t => t ++ ['\n'] := by
    rw [hwritten, Fragment.textOf_map, List.flatMap_map]
    simp only [htext]
  rw [linesBehind, List.drop_one, List.tail_cons, hlines, Text.rawLines_flatMap]

/-! ### Items and rows -/

theorem exists_items_forest (items : List Text) : ∃ f : Forest,
    (items.map Fragment.item).flatMap Fragment.tokens = f.tokens ∧ itemTexts f = items.map markUp := by
  induction items with
  | nil => exact ⟨.nil, rfl, rfl⟩
  | cons item items ih =>
    obtain ⟨f, hf, hitems⟩ := ih
    obtain ⟨g, hg, htext⟩ := exists_markUp_forest item
    refine ⟨.element "listitem".toList (.element "para".toList g .nil) (.char '\n' f), ?_, ?_⟩
    · have hitem : elementName "listitem".toList = "listitem".toList := rfl
      have hpara : elementName "para".toList = "para".toList := rfl
      simp only [List.map_cons, List.flatMap_cons, Fragment.tokens, Forest.tokens, hf, hg, hitem, hpara]
      simp
    · have hfirst : itemTexts (.element "listitem".toList (.element "para".toList g .nil) (.char '\n' f)) =
          g.text :: itemTexts f := rfl
      rw [hfirst, hitems, htext, List.map_cons]

theorem exists_entries_forest (cells : List Text) : ∃ f : Forest,
    cells.flatMap Fragment.entryTokens = f.tokens ∧
    (f.elements "entry".toList).map Forest.text = cells.map markUp := by
  induction cells with
  | nil => exact ⟨.nil, rfl, rfl⟩
  | cons cell cells ih =>
    obtain ⟨f, hf, hcells⟩ := ih
    obtain ⟨g, hg, htext⟩ := exists_markUp_forest cell
    refine ⟨.element "entry".toList g (.char ' ' f), ?_, ?_⟩
    · have hname : elementName "entry".toList = "entry".toList := rfl
      simp only [List.flatMap_cons, Fragment.entryTokens, Forest.tokens, hf, hg, hname]
      simp
    · have hfirst : ((Forest.element "entry".toList g (.char ' ' f)).elements "entry".toList).map Forest.text =
          g.text :: (f.elements "entry".toList).map Forest.text := rfl
      rw [hfirst, hcells, htext, List.map_cons]

theorem exists_rows_forest (rows : List (List Text)) : ∃ f : Forest,
    (rows.map Fragment.row).flatMap Fragment.tokens = f.tokens ∧ rowTexts f = rows.map fun cells => cells.map markUp := by
  induction rows with
  | nil => exact ⟨.nil, rfl, rfl⟩
  | cons cells rows ih =>
    obtain ⟨f, hf, hrows⟩ := ih
    obtain ⟨g, hg, hcells⟩ := exists_entries_forest cells
    refine ⟨.element "row".toList (.char ' ' g) (.char '\n' f), ?_, ?_⟩
    · have hname : elementName "row".toList = "row".toList := rfl
      simp only [List.map_cons, List.flatMap_cons, Fragment.tokens, Forest.tokens, hf, hg, hname]
      simp
    · have hfirst : rowTexts (.element "row".toList (.char ' ' g) (.char '\n' f)) =
          (g.elements "entry".toList).map Forest.text :: rowTexts f := rfl
      rw [hfirst, hrows, hcells, List.map_cons]

/-- What is inside a table with the rows `rows`. -/
def tableForest (columns : Nat) (rows : Forest) : Forest :=
  .element "title".toList .nil (.char ' ' (.element (Fragment.columnsTag columns)
    (.char ' ' (.element "tbody".toList (.char '\n' rows) .nil)) .nil))

theorem rowTexts_tableForest (columns : Nat) (rows : Forest) : rowTexts (tableForest columns rows) = rowTexts rows := by
  have hrows : (tableForest columns rows).elements "row".toList = rows.elements "row".toList ++ [] ++ [] := rfl
  rw [rowTexts, hrows, List.append_nil, List.append_nil, rowTexts]

theorem tokens_tableForest (columns : Nat) (rows : Forest) : (tableForest columns rows).tokens =
    [.start "title".toList, .stop "title".toList, .char ' ', .start (Fragment.columnsTag columns), .char ' ',
      .start "tbody".toList, .char '\n'] ++ rows.tokens ++ [.stop "tbody".toList, .stop "tgroup".toList] := by
  have htitle : elementName "title".toList = "title".toList := rfl
  have hgroup : elementName (Fragment.columnsTag columns) = "tgroup".toList := rfl
  have hbody : elementName "tbody".toList = "tbody".toList := rfl
  simp only [tableForest, Forest.tokens, htitle, hgroup, hbody]
  simp

theorem valueOf_graphicTag (fileref : Text) : valueOf (Fragment.graphicTag fileref) = escape fileref := by
  have hquote : (Fragment.graphicTag fileref).dropWhile (· != '"') = '"' :: (escape fileref ++ ['"']) := rfl
  rw [valueOf, hquote, List.drop_one, List.tail_cons, List.dropLast_concat]

/-! ### Blocks -/

/-- What stands between the brackets of the tag that starts a block. -/
def Block.tag : Block → Text
  | run kind _ _ => kind.name
  | table _ _ _ => "table frame='all'".toList
  | screen _ => "screen".toList
  | graphic fileref => Fragment.graphicTag fileref

/-- The fragments from the start of an element, which a character follows, to its end. -/
theorem tokens_between {start stop : Fragment} {inner : List Fragment} {tag name : Text} {c : Char} {f : Forest}
    (hstart : start.tokens = [.start tag, .char c]) (hinner : inner.flatMap Fragment.tokens = f.tokens)
    (hstop : stop.tokens = [.stop name, .char '\n']) : (start :: inner ++ [stop]).flatMap Fragment.tokens =
      .start tag :: ((Forest.char c f).tokens ++ [.stop name, .char '\n']) := by
  rw [List.cons_append, List.flatMap_cons, List.flatMap_append, hstart, hinner, List.flatMap_singleton, hstop]
  rfl

theorem exists_table_forest (columns : Nat) (first : List Text) (more : List (List Text)) : ∃ f : Forest,
    (Block.table columns first more).fragments.flatMap Fragment.tokens =
      .start "table frame='all'".toList :: ((tableForest columns f).tokens ++ [.stop "table".toList, .char '\n']) ∧
    rowTexts (tableForest columns f) = (first :: more).map fun cells => cells.map markUp := by
  obtain ⟨f, hf, hrows⟩ := exists_rows_forest (first :: more)
  refine ⟨f, ?_, by rw [rowTexts_tableForest, hrows]⟩
  rw [tokens_tableForest, ← hf, Block.fragments, List.cons_append, List.flatMap_cons, List.flatMap_append]
  simp [Fragment.tokens]

/-- A block is one element that holds its contents, and a line feed behind it. -/
theorem exists_block_forest (b : Block) : ∃ inside : Forest, b.fragments.flatMap Fragment.tokens =
      .start b.tag :: (inside.tokens ++ [.stop (elementName b.tag), .char '\n']) ∧
    ∀ depth, contentsOf depth b.tag inside = b.contents.flatMap Content.readings := by
  cases b with
  | run kind first more =>
    cases kind with
    | paragraph =>
      obtain ⟨f, hf, hlines⟩ := exists_lines_forest .paragraphLine ' ' (fun _ => ⟨rfl, rfl⟩)
        Fragment.text_paragraphLine (first :: more)
      have htokens := @tokens_between (.containerStart .paragraph) (.containerEnd .paragraph) _ _ _ _ f rfl hf rfl
      refine ⟨.char ' ' f, htokens, fun depth => ?_⟩
      have hcontents : contentsOf depth Container.paragraph.name (.char ' ' f) =
          (linesBehind (' ' :: f.text)).map .paragraphLine := rfl
      rw [hlines, List.map_flatMap, List.flatMap_map] at hcontents
      rw [Block.contents, List.flatMap_map]
      exact hcontents
    | list kind =>
      obtain ⟨f, hf, hitems⟩ := exists_items_forest (first :: more)
      have hname : elementName (Block.run (.list kind) first more).tag = (Container.list kind).name := by
        cases kind <;> rfl
      have htokens := @tokens_between (.containerStart (.list kind)) (.containerEnd (.list kind)) _ _ _ _ f rfl hf rfl
      refine ⟨.char ' ' f, ?_, fun depth => ?_⟩
      · rw [hname]
        exact htokens
      · have hcontents : contentsOf depth (Container.list kind).name (.char ' ' f) =
            (itemTexts f).map (.item kind) := by cases kind <;> rfl
        rw [hitems, List.map_map] at hcontents
        rw [Block.contents, flatMap_readings (List.forall_mem_map.mpr fun _ _ => rfl), List.map_map]
        exact hcontents
  | table columns first more =>
    obtain ⟨f, hf, hrows⟩ := exists_table_forest columns first more
    have hname : elementName (Block.table columns first more).tag = "table".toList := rfl
    refine ⟨tableForest columns f, by rw [hname]; exact hf, fun depth => ?_⟩
    have hcontents : contentsOf depth "table frame='all'".toList (tableForest columns f) =
        (rowTexts (tableForest columns f)).map .row := rfl
    rw [hrows, List.map_map] at hcontents
    rw [Block.contents, flatMap_readings (List.forall_mem_map.mpr fun _ _ => rfl), List.map_map]
    exact hcontents
  | screen lines =>
    obtain ⟨f, hf, hlines⟩ := exists_lines_forest .screenLine '\n' (fun _ => ⟨rfl, rfl⟩)
      Fragment.text_screenLine lines
    have htokens := @tokens_between .screenStart .screenEnd _ _ _ _ f rfl hf rfl
    refine ⟨.char '\n' f, htokens, fun depth => ?_⟩
    have hcontents : contentsOf depth "screen".toList (.char '\n' f) =
        (linesBehind ('\n' :: f.text)).map .screenLine := rfl
    rw [hlines, List.map_flatMap, List.flatMap_map] at hcontents
    rw [Block.contents, List.flatMap_map]
    exact hcontents
  | graphic fileref =>
    refine ⟨.nil, rfl, fun depth => ?_⟩
    have hcontents : contentsOf depth (Fragment.graphicTag fileref) .nil =
        [.graphic (decode (valueOf (Fragment.graphicTag fileref)))] := rfl
    rw [valueOf_graphicTag, decode_escape] at hcontents
    exact hcontents

theorem not_isPrefixOf_tag (b : Block) : "sect".toList.isPrefixOf b.tag = false := by
  cases b with
  | run kind first more =>
    cases kind with
    | paragraph => rfl
    | list kind => cases kind <;> rfl
  | _ => rfl

theorem holds_block (b : Block) :
    Holds depth (b.fragments.flatMap Fragment.tokens) (b.contents.flatMap Content.readings) := by
  obtain ⟨inside, htokens, hcontents⟩ := exists_block_forest b
  rw [htokens, ← hcontents depth]
  exact holds_element inside (not_isPrefixOf_tag b) rfl

theorem holds_blocks (bs : List Block) :
    Holds depth ((bs.flatMap Block.fragments).flatMap Fragment.tokens)
      ((bs.flatMap Block.contents).flatMap Content.readings) := by
  induction bs with
  | nil => exact holds_nil depth
  | cons b bs ih =>
    rw [List.flatMap_cons, List.flatMap_cons, List.flatMap_append, List.flatMap_append]
    exact (holds_block b).append ih

/-! ### Sections -/

theorem tokens_sectionStart (k : Nat) :
    (Fragment.sectionStart k).tokens = [.start (sectionName k), .char ' '] := rfl

theorem tokens_ending (k : Nat) (next : Outline) :
    ∃ c, (next.ending k).tokens = [.stop (sectionName k), .char c] := by
  cases next with
  | nil => exact ⟨'\n', rfl⟩
  | titled => exact ⟨' ', rfl⟩
  | skipped => exact ⟨' ', rfl⟩

theorem holds_title (depth : Nat) (source : Text) :
    Holds depth (Fragment.title source).tokens [.title depth (markUp source)] := by
  obtain ⟨f, hf, htext⟩ := exists_markUp_forest source
  have hheld := @holds_element depth "title".toList _ f rfl rfl
  have hcontents : contentsOf depth "title".toList f = [.title depth f.text] := rfl
  rw [hcontents, htext] at hheld
  rw [Fragment.tokens, hf]
  exact hheld

theorem holds_outline (sections : Outline) :
    Holds depth ((sections.fragments (depth + 1)).flatMap Fragment.tokens)
      ((sections.contents (depth + 1)).flatMap Content.readings) := by
  induction sections generalizing depth with
  | nil => exact holds_nil depth
  | titled title blocks inside next hinside hnext =>
    have hheld := ((holds_title (depth + 1) title).append ((holds_blocks blocks).append (@hinside (depth + 1)))).char ' '
    obtain ⟨c, hc⟩ := tokens_ending (depth + 1) next
    have := hheld.section (depth + 1) ((@hnext depth).char c)
    rw [Outline.fragments, Outline.contents]
    simpa [hc, tokens_sectionStart, Content.readings, Content.written] using this
  | skipped inside next hinside hnext =>
    obtain ⟨c, hc⟩ := tokens_ending (depth + 1) next
    have := ((@hinside (depth + 1)).char ' ').section (depth + 1) ((@hnext depth).char c)
    rw [Outline.fragments, Outline.contents]
    simpa [hc, tokens_sectionStart] using this

/-! ### Contents of one line -/

/-- A line of a paragraph or of a literal block holds no line feed. -/
def Content.OneLine : Content → Prop
  | paragraphLine text | screenLine text => '\n' ∉ text
  | _ => True

theorem readings_of_oneLine {c : Content} (h : c.OneLine) : c.readings = [c.written] := by
  cases c with
  | paragraphLine text =>
    rw [Content.readings, Text.pieces_of_notMem (lineFeed_notMem_markUp h)]
    rfl
  | screenLine text =>
    rw [Content.readings, Text.pieces_of_notMem (lineFeed_notMem_escape h)]
    rfl
  | _ => rfl

theorem holds_tree {t : Tree} (h : ∀ c ∈ t.contents, c.OneLine) :
    Holds 0 (t.fragments.flatMap Fragment.tokens) (t.contents.map Content.written) := by
  rw [← flatMap_readings fun c hc => readings_of_oneLine (h c hc), Tree.fragments, Tree.contents, List.flatMap_append,
    List.flatMap_append]
  exact (holds_blocks t.blocks).append (holds_outline t.sections)

/-! ### Lines -/

theorem oneLine_content {base : Option Text} {line : Text} (h : '\n' ∉ line) (p : Place) :
    ∀ c ∈ p.content? base line, c.OneLine := by
  intro c hc
  unfold Place.content? at hc
  split at hc
  · split at hc
    · cases hc
    · cases hc
      exact h
  · split at hc <;> cases hc
    all_goals trivial

theorem oneLine_contentsFrom {base : Option Text} {lines : List Text} (h : ∀ line ∈ lines, '\n' ∉ line) (p : Place) :
    ∀ c ∈ contentsFrom base p lines, c.OneLine := by
  induction lines generalizing p with
  | nil => nofun
  | cons line lines ih =>
    intro c hc
    rcases List.mem_append.mp hc with hc | hc
    · have hline : '\n' ∉ Text.trimEnd line := fun hmem => h line List.mem_cons_self ((Text.trimEnd_isPrefix line).mem hmem)
      exact oneLine_content hline p c (Option.mem_toList.mp hc)
    · exact ih (fun l hl => h l (List.mem_cons_of_mem _ hl)) _ c hc

/-- The text of a body holds what the lines contribute, each line at most one thing, in the order of the
    lines: nothing is lost, doubled or moved. -/
theorem read_ofLines (base : Option Text) {lines : List Text} (h : ∀ line ∈ lines, '\n' ∉ line) :
    read? (ofLines base lines) = some ((contents base lines).map Content.written) := by
  obtain ⟨t, -, hfragments, hcontents⟩ := exists_tree base lines
  have hone : ∀ c ∈ t.contents, c.OneLine := hcontents ▸ oneLine_contentsFrom h .start
  obtain ⟨f, hf, hread⟩ := holds_tree hone
  have htokens : Markup.tokens (ofLines base lines) = f.tokens := by
    rw [ofLines, hfragments, (Fragment.cut_textOf t.fragments).2, hf]
  rw [read?, Forest.ofText?, htokens, Forest.ofTokens?_tokens, Option.map_some, hread, hcontents]

/-- Lines of every kind, with a table that a comment does not end and a literal block that holds a heading. -/
def sampleLines : List Text :=
  ["= Timers =".toList, "* tick".toList, "|| a || b ||".toList, "#".toList, "|| c ||".toList, "[clock.png]".toList,
    "They *tick*.".toList, Fence.opening.text, "= raw =  ".toList, Fence.closing.text]

theorem read_sampleLines : (∀ line ∈ sampleLines, '\n' ∉ line) ∧
    read? (ofLines none sampleLines) = some ([Content.title 1 "Timers".toList, .item .itemized "tick".toList,
      .row ["a".toList, "b".toList], .row ["c".toList, []], .graphic "clock.png".toList,
      .paragraphLine "They *tick*.".toList, .screenLine "= raw =".toList].map Content.written) := by
  have h : ∀ line ∈ sampleLines, '\n' ∉ line := by decide
  refine ⟨h, (read_ofLines none h).trans ?_⟩
  have hcontents : contents none sampleLines = [Content.title 1 "Timers".toList, .item .itemized "tick".toList,
      .row ["a".toList, "b".toList], .row ["c".toList, []], .graphic "clock.png".toList,
      .paragraphLine "They *tick*.".toList, .screenLine "= raw =".toList] := by decide
  rw [hcontents]

end Body
end WikiArticle
