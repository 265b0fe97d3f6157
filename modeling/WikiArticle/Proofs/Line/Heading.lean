import WikiArticle.Line.Marked
import WikiArticle.Proofs.Inline.Unmark

/-! Headings. A line is a heading of the deepest level whose marks stand at both of its ends, with nothing but one
    line of text between them. What the two groups of marks leave is the title, other marks included. -/

namespace WikiArticle

namespace Text

/-- A text that trimming leaves as it is begins with no white space. -/
theorem trimStart_of_trim {t : Text} (h : trim t = t) : trimStart t = t := by
  refine (trimStart_isSuffix t).eq_of_length_le ?_
  calc t.length = (trim t).length := by rw [h]
    _ ≤ (trimStart t).length := (trimEnd_isPrefix (trimStart t)).length_le

theorem trim_between_spaces {t : Text} (h : trim t = t) : trim (' ' :: (t ++ [' '])) = t := by
  have hspace : trimStart (' ' :: (t ++ [' '])) = trimStart (t ++ [' ']) := rfl
  have hstart := trimStart_of_trim h
  rw [trim, hspace]
  cases t with
  | nil => rfl
  | cons c t =>
    have hc : ¬isBlank c = true := fun hc => by
      rw [trimStart, List.dropWhile_cons_of_pos hc] at hstart
      have := (List.dropWhile_suffix (l := t) isBlank).length_le
      rw [hstart, List.length_cons] at this
      omega
    have hkept : trimStart (c :: t ++ [' ']) = c :: t ++ [' '] := List.dropWhile_cons_of_neg hc
    rw [hkept, trimEnd_append_of_isAllBlank _ rfl]
    rwa [trim, hstart] at h

end Text

namespace Heading

/-- The line is the text between two groups of marks of a level, and no line feed stands in the text. -/
def Encloses (level : Nat) (inner t : Text) : Prop := t = marks level ++ inner ++ marks level ∧ '\n' ∉ inner

theorem length_marks (level : Nat) : (marks level).length = level := List.length_replicate

theorem Encloses.length {level : Nat} {inner t : Text} (h : Encloses level inner t) :
    t.length = inner.length + 2 * level := by
  rw [h.1, List.length_append, List.length_append, length_marks]
  omega

/-- There is room for both groups of marks, so the one at the end stands behind the one at the start. -/
theorem marks_at_ends_iff {level : Nat} {t : Text} :
    2 * level ≤ t.length ∧ marks level <+: t ∧ marks level <:+ t ↔ ∃ inner, t = marks level ++ inner ++ marks level := by
  constructor
  · rintro ⟨hroom, ⟨rest, rfl⟩, hback⟩
    have hrest : (marks level).length ≤ rest.length := by
      rw [List.length_append, length_marks] at hroom
      rw [length_marks]
      omega
    obtain ⟨inner, rfl⟩ := List.suffix_of_suffix_length_le hback (List.suffix_append _ rest) hrest
    exact ⟨inner, (List.append_assoc ..).symm⟩
  · rintro ⟨inner, rfl⟩
    refine ⟨?_, ?_, List.suffix_append _ _⟩
    · simp only [List.length_append, length_marks]
      omega
    · rw [List.append_assoc]
      exact List.prefix_append _ _

theorem take_drop_marks (level : Nat) (inner : Text) :
    ((marks level ++ inner ++ marks level).drop level).take
      ((marks level ++ inner ++ marks level).length - 2 * level) = inner := by
  have hlength : (marks level ++ inner ++ marks level).length - 2 * level = inner.length := by
    simp only [List.length_append, length_marks]
    omega
  rw [hlength, List.append_assoc, List.drop_left' (length_marks level), List.take_left' rfl]

theorem between?_eq_some {level : Nat} {inner t : Text} : between? level t = some inner ↔ Encloses level inner t := by
  simp only [between?, Option.ite_none_right_eq_some, Bool.and_eq_true, decide_eq_true_eq,
    List.isPrefixOf_iff_prefix, List.isSuffixOf_iff_suffix, Bool.not_eq_true', List.contains_eq_mem,
    decide_eq_false_iff_not, Option.some.injEq]
  constructor
  · rintro ⟨⟨⟨⟨hroom, hfront⟩, hback⟩, hline⟩, hinner⟩
    obtain ⟨inner, rfl⟩ := marks_at_ends_iff.mp ⟨hroom, hfront, hback⟩
    rw [take_drop_marks] at hline hinner
    subst hinner
    exact ⟨rfl, hline⟩
  · rintro ⟨rfl, hline⟩
    obtain ⟨hroom, hfront, hback⟩ := marks_at_ends_iff.mpr ⟨inner, rfl⟩
    rw [take_drop_marks]
    exact ⟨⟨⟨⟨hroom, hfront⟩, hback⟩, hline⟩, rfl⟩

theorem between?_eq_none {level : Nat} {t : Text} : between? level t = none ↔ ∀ inner, ¬Encloses level inner t := by
  rw [Option.eq_none_iff_forall_ne_some]
  exact forall_congr' fun inner => not_congr between?_eq_some

theorem mem_levels {level : Nat} : level ∈ levels ↔ 1 ≤ level ∧ level ≤ 3 := by
  simp only [levels, List.mem_cons, List.not_mem_nil, or_false]
  omega

theorem ofText?_eq_none_iff {t : Text} :
    ofText? t = none ↔ ∀ level inner, 1 ≤ level → level ≤ 3 → ¬Encloses level inner t := by
  simp only [ofText?, List.findSome?_eq_none_iff, Option.map_eq_none_iff, between?_eq_none, mem_levels]
  exact ⟨fun h level inner h1 h3 => h level ⟨h1, h3⟩ inner, fun h level hlevel inner => h level inner hlevel.1 hlevel.2⟩

theorem between?_of_no_deeper {level : Nat} {t : Text}
    (h : ∀ deeper inner, level < deeper → deeper ≤ 3 → ¬Encloses deeper inner t) (deeper : Nat) (h1 : level < deeper)
    (h3 : deeper ≤ 3) : between? deeper t = none :=
  between?_eq_none.mpr fun inner => h deeper inner h1 h3

/-- The deepest level that the marks of a line allow gives the heading. -/
theorem ofText?_eq_some_iff {t : Text} {level : Nat} {title : Text} : ofText? t = some ⟨level, title⟩ ↔
    1 ≤ level ∧ level ≤ 3 ∧ (∃ inner, Encloses level inner t ∧ title = Text.trim inner) ∧
    ∀ deeper inner, level < deeper → deeper ≤ 3 → ¬Encloses deeper inner t := by
  constructor
  · intro h
    obtain ⟨before, k, after, hlevels, hk, hbefore⟩ := List.findSome?_eq_some_iff.mp h
    obtain ⟨inner, hinner, heq⟩ := Option.map_eq_some_iff.mp hk
    cases heq
    obtain ⟨h1, h3⟩ := mem_levels.mp (hlevels ▸ List.mem_append_right before List.mem_cons_self)
    refine ⟨h1, h3, ⟨inner, between?_eq_some.mp hinner, rfl⟩, fun deeper other hlt hle => ?_⟩
    -- The levels fall, so a deeper one has been tried before.
    have hsorted : (before ++ level :: after).Pairwise (· > ·) := hlevels ▸ (by decide : levels.Pairwise (· > ·))
    have hmem : deeper ∈ before ++ level :: after := hlevels ▸ mem_levels.mpr ⟨by omega, hle⟩
    have hdeeper : deeper ∈ before := by
      rcases List.mem_append.mp hmem with hmem | hmem
      · exact hmem
      · have hbehind := (List.pairwise_cons.mp (List.pairwise_append.mp hsorted).2.1).1
        rcases List.mem_cons.mp hmem with rfl | hmem
        · omega
        · have := hbehind deeper hmem
          omega
    exact between?_eq_none.mp (Option.map_eq_none_iff.mp (hbefore deeper hdeeper)) other
  · rintro ⟨h1, h3, ⟨inner, hinner, rfl⟩, hdeeper⟩
    have hlevel : between? level t = some inner := between?_eq_some.mpr hinner
    obtain rfl | rfl | rfl : level = 1 ∨ level = 2 ∨ level = 3 := by omega
    · simp [ofText?, levels, hlevel, between?_of_no_deeper hdeeper 2, between?_of_no_deeper hdeeper 3]
    · simp [ofText?, levels, hlevel, between?_of_no_deeper hdeeper 3]
    · simp [ofText?, levels, hlevel]

/-- The marks of a level enclose one text at most. -/
theorem title_of_encloses {t inner : Text} {h : Heading} (hheading : ofText? t = some h)
    (hinner : Encloses h.level inner t) : h.title = Text.trim inner := by
  obtain ⟨-, -, ⟨other, hother, htitle⟩, -⟩ := ofText?_eq_some_iff.mp hheading
  have hsame := (between?_eq_some.mpr hother).symm.trans (between?_eq_some.mpr hinner)
  rw [htitle, Option.some_inj.mp hsame]

theorem head_of_ofText? {t : Text} {h : Heading} (hheading : ofText? t = some h) : ∃ rest, t = '=' :: rest := by
  obtain ⟨h1, -, ⟨inner, ⟨rfl, -⟩, -⟩, -⟩ := ofText?_eq_some_iff.mp hheading
  obtain ⟨n, hn⟩ := Nat.exists_eq_add_of_le' h1
  rw [hn]
  exact ⟨_, rfl⟩

/-! ### Marks in the title -/

theorem count_trim (c : Char) (hc : Text.isBlank c = false) (t : Text) : (Text.trim t).count c = t.count c := by
  have hcount (t : Text) : (Inline.withoutBlanks t).count c = t.count c := List.count_filter (by rw [hc]; rfl)
  rw [← hcount, Inline.withoutBlanks_trim, hcount]

theorem count_encloses {level : Nat} {inner t : Text} (h : Encloses level inner t) :
    t.count '=' = (Text.trim inner).count '=' + 2 * level := by
  rw [count_trim '=' rfl, h.1, List.count_append, List.count_append, marks, List.count_replicate_self]
  omega

/-- A line of marks only has as many of them at each end as there is room for, up to three. -/
theorem ofText?_replicate (n : Nat) : ofText? (List.replicate n '=') =
    if n < 2 then none else some ⟨min 3 (n / 2), List.replicate (n - 2 * min 3 (n / 2)) '='⟩ := by
  split
  · rename_i hn
    refine ofText?_eq_none_iff.mpr fun level inner h1 _ h => ?_
    have := h.length
    rw [List.length_replicate] at this
    omega
  · rename_i hn
    refine ofText?_eq_some_iff.mpr ⟨by omega, by omega,
      ⟨List.replicate (n - 2 * min 3 (n / 2)) '=', ⟨?_, ?_⟩, ?_⟩, fun deeper inner hlt hle h => ?_⟩
    · rw [marks, List.replicate_append_replicate, List.replicate_append_replicate]
      congr 1
      omega
    · simp
    · cases n - 2 * min 3 (n / 2) with
      | zero => rfl
      | succ m =>
        have hlast : (List.replicate (m + 1) '=').getLast? = some '=' := by
          rw [List.getLast?_replicate, if_neg (Nat.succ_ne_zero m)]
        exact (Text.trim_of_ends (a := '=') rfl hlast rfl rfl).symm
    · have := h.length
      rw [List.length_replicate] at this
      omega

/-! ### Headings written -/

theorem ofText?_of_title {level : Nat} (h1 : 1 ≤ level) (h3 : level ≤ 3) {title : Text}
    (htitle : Text.trim title = title) (hline : '\n' ∉ title) :
    ofText? (marks level ++ ' ' :: (title ++ ' ' :: marks level)) = some ⟨level, title⟩ := by
  have hencloses : Encloses level (' ' :: (title ++ [' '])) (marks level ++ ' ' :: (title ++ ' ' :: marks level)) := by
    refine ⟨by simp, ?_⟩
    simp [hline]
  refine ofText?_eq_some_iff.mpr ⟨h1, h3, ⟨_, hencloses, (Text.trim_between_spaces htitle).symm⟩, ?_⟩
  -- The space behind the first marks stands where a deeper level would have another mark.
  intro deeper inner hlt _ h
  have hmark : (marks level ++ ' ' :: (title ++ ' ' :: marks level))[level]? = some '=' := by
    have hin : level < (marks deeper).length := by rwa [length_marks]
    rw [h.1, List.append_assoc, List.getElem?_append_left hin, List.getElem?_eq_getElem hin]
    simp [marks]
  have hspace : (marks level ++ ' ' :: (title ++ ' ' :: marks level))[level]? = some ' ' := by
    rw [List.getElem?_append_right (by rw [length_marks]), length_marks, Nat.sub_self]
    rfl
  rw [hspace] at hmark
  cases hmark

/-- A line is a heading just if the marks of a level from one to three enclose a text in it, and then the deepest
    such level and the trimmed text are those of the heading. No mark is lost: all but the two groups of the
    level are in the title, also where the line holds nothing but marks. A heading that is written with a
    trimmed title of one line is read with that level and that title. -/
theorem ofText?_exact :
    (∀ t, ofText? t = none ↔ ∀ level inner, 1 ≤ level → level ≤ 3 → ¬Encloses level inner t) ∧
    (∀ t level title, ofText? t = some ⟨level, title⟩ ↔ 1 ≤ level ∧ level ≤ 3 ∧
      (∃ inner, Encloses level inner t ∧ title = Text.trim inner) ∧
      ∀ deeper inner, level < deeper → deeper ≤ 3 → ¬Encloses deeper inner t) ∧
    (∀ t level title, ofText? t = some ⟨level, title⟩ → t.count '=' = title.count '=' + 2 * level) ∧
    (∀ n, ofText? (List.replicate n '=') =
      if n < 2 then none else some ⟨min 3 (n / 2), List.replicate (n - 2 * min 3 (n / 2)) '='⟩) ∧
    ∀ level title, 1 ≤ level → level ≤ 3 → Text.trim title = title → '\n' ∉ title →
      ofText? (marks level ++ ' ' :: (title ++ ' ' :: marks level)) = some ⟨level, title⟩ := by
  refine ⟨fun _ => ofText?_eq_none_iff, fun _ _ _ => ofText?_eq_some_iff, fun t level title h => ?_,
    ofText?_replicate, fun level title h1 h3 htrim hline => ofText?_of_title h1 h3 htrim hline⟩
  obtain ⟨-, -, ⟨inner, hinner, rfl⟩, -⟩ := ofText?_eq_some_iff.mp h
  exact count_encloses hinner

/-- A mark inside the title is no mark of the heading. -/
theorem ofText?_mark_in_title : Text.trim "a = b".toList = "a = b".toList ∧ '\n' ∉ "a = b".toList ∧
    ofText? "== a = b ==".toList = some ⟨2, "a = b".toList⟩ := by
  have htrim : Text.trim "a = b".toList = "a = b".toList := by decide
  have hline : '\n' ∉ "a = b".toList := by decide
  have htext : "== a = b ==".toList = marks 2 ++ ' ' :: ("a = b".toList ++ ' ' :: marks 2) := by decide
  rw [htext]
  exact ⟨htrim, hline, ofText?_exact.2.2.2.2 2 _ (by decide) (by decide) htrim hline⟩

end Heading
end WikiArticle
