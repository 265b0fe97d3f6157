import WikiArticle.Article
import WikiArticle.Proofs.Text.Lines

/-! Articles of several sources. A draft is what the lines of its sources make of an empty one, in whatever
    pieces the lines come and whatever reads fail in between; so the article of some sources is that of the
    one text that they make together. -/

namespace WikiArticle

/-- What a draft is asked for: to add a text, or to add what a path leads to at that time. -/
inductive Request where
  | source (text : Text)
  | file (files : Files) (path : String)

/-- The text that a request adds, if it can be read. -/
def Request.text? : Request → Option Text
  | source text => some text
  | file files path => (files.read path).toOption.map String.toList

namespace Draft
open Body

/-- The draft behind a request. One that fails gives no new draft, and the old one stays. -/
def serve (d : Draft) : Request → Draft
  | .source text => d.addSource text
  | .file files path => (d.addFile files path).toOption.getD d

/-- The draft that the lines make. -/
def ofLines (options : Options) (lines : List Text) : Draft :=
  ⟨options, (pushAll options.imageBase lines .settled).context, (pushAll options.imageBase lines .settled).written⟩

/-! ### Requests -/

theorem addSource_ofLines (options : Options) (lines : List Text) (source : Text) :
    (ofLines options lines).addSource source = ofLines options (lines ++ Text.lines source) := by
  simp only [ofLines, pushAll_append]
  rfl

theorem serve_ofLines (options : Options) (lines : List Text) (r : Request) :
    (ofLines options lines).serve r = ofLines options (lines ++ r.text?.toList.flatMap Text.lines) := by
  cases r with
  | source text =>
    have hlines : (Request.source text).text?.toList.flatMap Text.lines = Text.lines text := List.flatMap_singleton ..
    rw [hlines]
    exact addSource_ofLines options lines text
  | file files path =>
    cases hread : files.read path with
    | error e =>
      have hserve : (ofLines options lines).serve (.file files path) = ofLines options lines := by
        rw [serve, addFile, hread]
        rfl
      have hlines : (Request.file files path).text?.toList.flatMap Text.lines = [] := by
        rw [Request.text?, hread]
        rfl
      rw [hserve, hlines, List.append_nil]
    | ok s =>
      have hserve : (ofLines options lines).serve (.file files path) = (ofLines options lines).addSource s.toList := by
        rw [serve, addFile, hread]
        rfl
      have hlines : (Request.file files path).text?.toList.flatMap Text.lines = Text.lines s.toList := by
        rw [Request.text?, hread]
        exact List.flatMap_singleton ..
      rw [hserve, hlines]
      exact addSource_ofLines options lines s.toList

theorem foldl_serve (options : Options) (lines : List Text) (requests : List Request) :
    requests.foldl serve (ofLines options lines) =
      ofLines options (lines ++ (requests.filterMap Request.text?).flatMap Text.lines) := by
  induction requests generalizing lines with
  | nil => rw [List.foldl_nil, List.filterMap_nil, List.flatMap_nil, List.append_nil]
  | cons r requests ih =>
    have hcons : ((r :: requests).filterMap Request.text?).flatMap Text.lines =
        r.text?.toList.flatMap Text.lines ++ (requests.filterMap Request.text?).flatMap Text.lines := by
      rw [List.filterMap_cons]
      cases r.text? with
      | none => rfl
      | some text => simp
    rw [List.foldl_cons, serve_ofLines, ih, hcons, List.append_assoc]

theorem finish_ofLines (options : Options) (lines : List Text) : (ofLines options lines).finish.document =
    Article.prologue options.language ++ Body.ofLines options.imageBase lines ++ Article.epilogue := rfl

theorem finish_lines_joined (options : Options) (texts : List Text) :
    (ofLines options (texts.flatMap Text.lines)).finish = Article.ofText options (Text.joined texts) := by
  have hjoined : ofLines options (Text.lines (Text.joined texts)) = (empty options).addSource (Text.joined texts) :=
    (addSource_ofLines options [] (Text.joined texts)).symm
  rw [← Text.lines_joined, hjoined, Article.ofText]

end Draft

namespace Article
open Draft

/-! ### Files -/

/-- Either every path can be read, or there is a first one that cannot. -/
theorem draftOfFiles_ofLines (options : Options) (files : Files) (paths : List String) (lines : List Text) :
    (∃ sources : List String, paths.map files.read = sources.map .ok ∧
      draftOfFiles files paths (Draft.ofLines options lines) =
        .ok (Draft.ofLines options (lines ++ (sources.map String.toList).flatMap Text.lines))) ∨
    ∃ before path after e, paths = before ++ path :: after ∧ (∀ p ∈ before, ∃ s, files.read p = .ok s) ∧
      files.read path = .error e ∧ draftOfFiles files paths (Draft.ofLines options lines) = .error e := by
  induction paths generalizing lines with
  | nil => exact Or.inl ⟨[], rfl, by rw [List.map_nil, List.flatMap_nil, List.append_nil]; rfl⟩
  | cons path paths ih =>
    cases hread : files.read path with
    | error e =>
      refine Or.inr ⟨[], path, paths, e, rfl, by simp, hread, ?_⟩
      rw [draftOfFiles, addFile, hread]
      rfl
    | ok s =>
      have hstep : draftOfFiles files (path :: paths) (Draft.ofLines options lines) =
          draftOfFiles files paths (Draft.ofLines options (lines ++ Text.lines s.toList)) := by
        rw [draftOfFiles, addFile, hread, ← addSource_ofLines]
        rfl
      rw [hstep]
      rcases ih (lines ++ Text.lines s.toList) with
        ⟨sources, hsources, hdraft⟩ | ⟨before, bad, after, e, rfl, hbefore, hbad, hdraft⟩
      · refine Or.inl ⟨s :: sources, by rw [List.map_cons, List.map_cons, hread, hsources], ?_⟩
        rw [hdraft, List.map_cons, List.flatMap_cons, List.append_assoc]
      · refine Or.inr ⟨path :: before, bad, after, e, rfl, ?_, hbad, hdraft⟩
        intro p hp
        rcases List.mem_cons.mp hp with rfl | hp
        · exact ⟨s, hread⟩
        · exact hbefore p hp

/-- A draft that is asked for texts and files in any order, whichever reads fail, becomes the article whose body
    the lines of all texts read make together, and what one text leaves open the next one goes on with. It
    is the article of one text, in which each of the texts read ends its last line. The article of some files
    is that of their texts, or there is none but the error of the first file that cannot be read. -/
theorem finish_serve (options : Options) (requests : List Request) :
    let d := requests.foldl serve (.empty options)
    let texts := requests.filterMap Request.text?
    d.context = (Body.pushAll options.imageBase (texts.flatMap Text.lines) .settled).context ∧
    d.finish.document =
      prologue options.language ++ Body.ofLines options.imageBase (texts.flatMap Text.lines) ++ epilogue ∧
    d.finish = ofText options (Text.joined texts) ∧
    ∀ (files : Files) (paths : List String),
      (∃ sources : List String, paths.map files.read = sources.map .ok ∧
        ofFiles options files paths = .ok (ofText options (Text.joined (sources.map String.toList)))) ∨
      ∃ before path after e, paths = before ++ path :: after ∧ (∀ p ∈ before, ∃ s, files.read p = .ok s) ∧
        files.read path = .error e ∧ ofFiles options files paths = .error e := by
  intro d texts
  have hd : d = Draft.ofLines options (texts.flatMap Text.lines) := foldl_serve options [] requests
  refine ⟨by rw [hd]; rfl, by rw [hd, finish_ofLines], by rw [hd, finish_lines_joined], fun files paths => ?_⟩
  rcases draftOfFiles_ofLines options files paths [] with
    ⟨sources, hsources, hdraft⟩ | ⟨before, path, after, e, hpaths, hbefore, hpath, hdraft⟩
  · refine Or.inl ⟨sources, hsources, ?_⟩
    have hfiles : ofFiles options files paths =
        .ok (Draft.ofLines options ((sources.map String.toList).flatMap Text.lines)).finish :=
      congrArg (Except.map Draft.finish) hdraft
    rw [hfiles, finish_lines_joined]
  · exact Or.inr ⟨before, path, after, e, hpaths, hbefore, hpath, congrArg (Except.map Draft.finish) hdraft⟩

end Article
end WikiArticle
