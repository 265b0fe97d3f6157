import Mathlib.Data.Nat.Find
import WikiArticle.Proofs.Body.Order

/-! The sections of a body and the headings of its lines. Each heading has a section of its level, which holds what
    the lines up to the next heading contribute; it lies in the section of an earlier heading if no heading
    in between, nor itself, is as high as that one. The other sections stand for skipped levels. -/

namespace WikiArticle
namespace Body
open Markup Inline

/-! ### Passages -/

/-- A heading, and what the lines behind it contribute up to the next heading. -/
structure Passage where
  level : Nat
  title : Text
  rest : List Content
  deriving DecidableEq, Repr

/-- What the heading and the lines behind it contribute, in their order. -/
def Passage.contents (p : Passage) : List Content := .title p.level p.title :: p.rest

/-- What comes before the first heading. -/
def opening (cs : List Content) : List Content := cs.takeWhile fun c => !c.isTitle

/-- The headings with what follows each of them, in their order. -/
def passages : List Content → List Passage
  | [] => []
  | .title level text :: cs => ⟨level, text, opening cs⟩ :: passages cs
  | _ :: cs => passages cs

/-- The level of a heading, by its place among the headings. -/
def levelAt (ps : List Passage) (i : Nat) : Nat := (ps.map Passage.level).getD i 0

/-- The level of the heading before one, zero for the first. -/
def levelBefore (ps : List Passage) (i : Nat) : Nat := (0 :: ps.map Passage.level).getD i 0

theorem opening_append_of_nil {ds : List Content} (h : opening ds = []) (cs : List Content) :
    opening (cs ++ ds) = opening cs := by
  unfold opening at h ⊢
  rw [List.takeWhile_append, h]
  split
  · rename_i hlength
    rw [List.append_nil, (List.takeWhile_prefix _).eq_of_length hlength]
  · rfl

theorem passages_append {ds : List Content} (h : opening ds = []) (cs : List Content) :
    passages (cs ++ ds) = passages cs ++ passages ds := by
  induction cs with
  | nil => rfl
  | cons c cs ih =>
    cases c with
    | title level text => rw [List.cons_append, passages, passages, opening_append_of_nil h, ih, List.cons_append]
    | _ => exact ih

section Untitled

variable {cs : List Content} (hcs : ∀ c ∈ cs, c.isTitle = false)
include hcs

theorem opening_append (ds : List Content) : opening (cs ++ ds) = cs ++ opening ds :=
  List.takeWhile_append_of_pos fun c hc => by rw [hcs c hc, Bool.not_false]

theorem passages_append_left (ds : List Content) : passages (cs ++ ds) = passages ds := by
  induction cs with
  | nil => rfl
  | cons c cs ih =>
    have hrest := ih fun d hd => hcs d (List.mem_cons_of_mem _ hd)
    cases c with
    | title level text => cases hcs _ List.mem_cons_self
    | _ => exact hrest

end Untitled

theorem isTitle_block {b : Block} {c : Content} (hc : c ∈ b.contents) : c.isTitle = false := by
  cases b with
  | run kind first more =>
    obtain ⟨text, -, rfl⟩ := List.mem_map.mp hc
    cases kind <;> rfl
  | table columns first more =>
    obtain ⟨cells, -, rfl⟩ := List.mem_map.mp hc
    rfl
  | screen lines =>
    obtain ⟨text, -, rfl⟩ := List.mem_map.mp hc
    rfl
  | graphic fileref =>
    obtain rfl := List.mem_singleton.mp hc
    rfl

theorem isTitle_blocks {bs : List Block} : ∀ c ∈ bs.flatMap Block.contents, c.isTitle = false := by
  intro c hc
  obtain ⟨b, -, hc⟩ := List.mem_flatMap.mp hc
  exact isTitle_block hc

theorem opening_outline (o : Outline) (k : Nat) : opening (o.contents k) = [] := by
  induction o generalizing k with
  | nil => rfl
  | titled title blocks inside next => rfl
  | skipped inside next hinside hnext => rw [Outline.contents, opening_append_of_nil (hnext k), hinside]

/-! ### Sections of headings -/

theorem level_of_mem {o : Outline} {around : List Nat} (h : o.Good around.length) (hpos : 1 ≤ around.length) {n : Nat}
    {s : Part} (hs : s ∈ o.sections around n) : s.name = sectionName s.level ∧ 1 ≤ s.level ∧ s.level ≤ 3 := by
  induction o generalizing around n with
  | nil => cases hs
  | titled title blocks inside next hinside hnext | skipped inside next hinside hnext =>
    obtain ⟨hk, -, hgood, hgoodNext, -⟩ := h
    simp only [Outline.sections, List.mem_cons, List.mem_append] at hs
    rcases hs with rfl | hs | hs
    · exact ⟨rfl, hpos, hk⟩
    · exact @hinside (n :: around) hgood (Nat.succ_pos _) _ hs
    · exact hnext hgoodNext hpos hs

theorem contents_of_untitled {o : Outline} {around : List Nat} {n : Nat} {s : Part} (hs : s ∈ o.sections around n)
    (htitled : s.titled = false) : s.contents = [] := by
  induction o generalizing around n with
  | nil => cases hs
  | titled title blocks inside next hinside hnext =>
    simp only [Outline.sections, List.mem_cons, List.mem_append] at hs
    rcases hs with rfl | hs | hs
    · cases htitled
    · exact hinside hs
    · exact hnext hs
  | skipped inside next hinside hnext =>
    simp only [Outline.sections, List.mem_cons, List.mem_append] at hs
    rcases hs with rfl | hs | hs
    · rfl
    · exact hinside hs
    · exact hnext hs

/-- The sections that have a title. -/
abbrev titledParts (ss : List Part) : List Part := ss.filter Part.titled

/-- A section of the level of a heading, with its title and with what follows it. -/
structure Heads (p : Passage) (s : Part) : Prop where
  level : s.level = p.level
  contents : s.contents = p.contents.flatMap Content.readings

theorem heads_sections (o : Outline) (around : List Nat) (n : Nat) :
    List.Forall₂ Heads (passages (o.contents around.length)) (titledParts (o.sections around n)) := by
  induction o generalizing around n with
  | nil => exact .nil
  | titled title blocks inside next hinside hnext =>
    have hnil : opening (inside.contents (around.length + 1) ++ next.contents around.length) = [] := by
      rw [opening_append_of_nil (opening_outline next _), opening_outline]
    have hpassages : passages ((Outline.titled title blocks inside next).contents around.length) =
        ⟨around.length, title, blocks.flatMap Block.contents⟩ ::
          (passages (inside.contents (around.length + 1)) ++ passages (next.contents around.length)) := by
      rw [Outline.contents, passages, List.append_assoc, opening_append isTitle_blocks, hnil, List.append_nil,
        passages_append_left isTitle_blocks, passages_append (opening_outline next _)]
    rw [hpassages, Outline.sections, titledParts, List.filter_cons_of_pos rfl, List.filter_append]
    exact .cons ⟨rfl, rfl⟩ (List.rel_append (hinside (n :: around) (n + 1)) (hnext around _))
  | skipped inside next hinside hnext =>
    rw [Outline.contents, passages_append (opening_outline next _), Outline.sections, titledParts,
      List.filter_cons_of_neg Bool.false_ne_true, List.filter_append]
    exact List.rel_append (hinside (n :: around) (n + 1)) (hnext around _)

/-! ### Sections and headings -/

/-- The sections are the outline that the headings make. -/
structure Follows (ps : List Passage) (ss : List Part) : Prop where
  number : ∀ i s, ss[i]? = some s → s.number = i + 1
  name : ∀ s ∈ ss, s.name = sectionName s.level ∧ 1 ≤ s.level ∧ s.level ≤ 3
  /-- The titled sections are those of the headings, in their order. -/
  heads : List.Forall₂ Heads ps (titledParts ss)
  /-- One lies in another if all headings behind the other one's, up to its own, are deeper. -/
  within : ∀ i j s t, (titledParts ss)[i]? = some s → (titledParts ss)[j]? = some t →
    (s.number ∈ t.around ↔ i < j ∧ ∀ m, i < m → m ≤ j → levelAt ps i < levelAt ps m)
  /-- Every other section holds nothing but sections, one of a heading among them, and stands for a level
      that this heading skips. -/
  skipped : ∀ s ∈ ss, s.titled = false → s.contents = [] ∧ ∃ j t, (titledParts ss)[j]? = some t ∧
    s.number ∈ t.around ∧ levelBefore ps j < s.level ∧ s.level < levelAt ps j

section Laws

variable {body : Part} {ss : List Part} {ps : List Passage} {i j : Nat} {p q s t : Part}

theorem number_lt_iff (h : InOrder (body :: ss)) (hi : (body :: titledParts ss)[i]? = some p)
    (hj : (body :: titledParts ss)[j]? = some q) : p.number < q.number ↔ i < j := by
  have hsorted : (body :: titledParts ss).Pairwise fun p q => p.number < q.number :=
    h.pairwise_number.sublist (List.filter_sublist.cons_cons body)
  obtain ⟨hi', rfl⟩ := List.getElem?_eq_some_iff.mp hi
  obtain ⟨hj', rfl⟩ := List.getElem?_eq_some_iff.mp hj
  constructor
  · intro hnumber
    rcases Nat.lt_trichotomy i j with hij | rfl | hji
    · exact hij
    · omega
    · have := List.pairwise_iff_getElem.mp hsorted j i hj' hi' hji
      omega
  · exact List.pairwise_iff_getElem.mp hsorted i j hi' hj'

theorem titled_number_lt_iff (h : InOrder (body :: ss)) (hi : (titledParts ss)[i]? = some p)
    (hj : (titledParts ss)[j]? = some q) : p.number < q.number ↔ i < j := by
  rw [number_lt_iff h (i := i + 1) (j := j + 1) hi hj]
  exact Nat.add_lt_add_iff_right

theorem mem_of_titled (hi : (titledParts ss)[i]? = some s) : s ∈ ss ∧ s.titled = true :=
  List.mem_filter.mp (List.mem_of_getElem? hi)

theorem exists_titled (hbody : body.titled = false) (hs : s ∈ body :: ss) (htitled : s.titled = true) :
    ∃ m : Nat, (titledParts ss)[m]? = some s := by
  rcases List.mem_cons.mp hs with rfl | hs
  · rw [hbody] at htitled
    cases htitled
  · exact List.getElem?_of_mem (List.mem_filter.mpr ⟨hs, htitled⟩)

theorem map_level (hheads : List.Forall₂ Heads ps (titledParts ss)) :
    ps.map Passage.level = (titledParts ss).map Part.level := by
  refine List.forall₂_eq_eq_eq ▸ List.forall₂_map_left_iff.mpr (List.forall₂_map_right_iff.mpr ?_)
  exact hheads.imp fun _ _ hhead => hhead.level.symm

theorem levelAt_of_heads (hheads : List.Forall₂ Heads ps (titledParts ss)) (hi : (titledParts ss)[i]? = some s) :
    levelAt ps i = s.level := by
  rw [levelAt, map_level hheads, List.getD_eq_getElem?_getD, List.getElem?_map, hi]
  rfl

theorem levelBefore_of_heads (hlevel : body.level = 0) (hheads : List.Forall₂ Heads ps (titledParts ss))
    (hi : (body :: titledParts ss)[i]? = some s) : levelBefore ps i = s.level := by
  rw [levelBefore, map_level hheads, ← hlevel, ← List.map_cons, List.getD_eq_getElem?_getD, List.getElem?_map, hi]
  rfl

theorem within_iff (h : InOrder (body :: ss)) (hbody : body.titled = false)
    (hheads : List.Forall₂ Heads ps (titledParts ss)) (hi : (titledParts ss)[i]? = some s)
    (hj : (titledParts ss)[j]? = some t) :
    s.number ∈ t.around ↔ i < j ∧ ∀ m, i < m → m ≤ j → levelAt ps i < levelAt ps m := by
  have hs : s ∈ body :: ss := List.mem_cons_of_mem _ (mem_of_titled hi).1
  have ht : t ∈ body :: ss := List.mem_cons_of_mem _ (mem_of_titled hj).1
  rw [h.mem_around_iff hs ht, titled_number_lt_iff h hi hj]
  refine and_congr_right fun _ => ⟨fun hdeep m h1 h2 => ?_, fun hdeep r hr htitled h1 h2 => ?_⟩
  · have hlength := (List.getElem?_eq_some_iff.mp hj).1
    have hm := List.getElem?_eq_getElem (Nat.lt_of_le_of_lt h2 hlength)
    obtain ⟨hmem, htitled⟩ := mem_of_titled hm
    rw [levelAt_of_heads hheads hi, levelAt_of_heads hheads hm]
    refine hdeep _ (List.mem_cons_of_mem _ hmem) htitled ((titled_number_lt_iff h hi hm).mpr h1) ?_
    exact Nat.not_lt.mp fun hgt => Nat.not_lt.mpr h2 ((titled_number_lt_iff h hj hm).mp hgt)
  · obtain ⟨m, hm⟩ := exists_titled hbody hr htitled
    have hmj : m ≤ j := Nat.not_lt.mp fun hgt => Nat.not_lt.mpr h2 ((titled_number_lt_iff h hj hm).mpr hgt)
    have hlevel := hdeep m ((titled_number_lt_iff h hi hm).mp h1) hmj
    rwa [levelAt_of_heads hheads hi, levelAt_of_heads hheads hm] at hlevel

/-- The last section has a title, so one comes behind each that has none. -/
theorem exists_titled_behind (h : InOrder (body :: ss)) (hlast : ∀ s ∈ ss.getLast?, s.titled = true) (hs : s ∈ ss)
    (htitled : s.titled = false) : ∃ (j : Nat) (t : Part), (titledParts ss)[j]? = some t ∧ s.number < t.number := by
  rcases List.eq_nil_or_concat ss with rfl | ⟨rs, last, rfl⟩
  · cases hs
  · rw [List.concat_eq_append] at *
    have hmem : last ∈ rs ++ [last] := List.mem_append_right _ (List.mem_singleton_self _)
    have hlast : last.titled = true := hlast last List.getLast?_concat
    obtain ⟨j, hj⟩ := List.getElem?_of_mem (List.mem_filter.mpr ⟨hmem, hlast⟩)
    refine ⟨j, last, hj, ?_⟩
    rcases List.mem_append.mp hs with hs | hs
    · have hsections := (List.pairwise_cons.mp h.pairwise_number).2
      exact (List.pairwise_append.mp hsections).2.2 s hs last (List.mem_singleton_self _)
    · rw [List.mem_singleton.mp hs, hlast] at htitled
      cases htitled

theorem exists_skipped (h : InOrder (body :: ss)) (hbody : body.titled = false) (hlevel : body.level = 0)
    (hheads : List.Forall₂ Heads ps (titledParts ss)) (hlast : ∀ s ∈ ss.getLast?, s.titled = true) (hs : s ∈ ss)
    (htitled : s.titled = false) : ∃ j t, (titledParts ss)[j]? = some t ∧ s.number ∈ t.around ∧
      levelBefore ps j < s.level ∧ s.level < levelAt ps j := by
  have hmem : s ∈ body :: ss := List.mem_cons_of_mem _ hs
  have hbehind := exists_titled_behind h hlast hs htitled
  classical
  -- The heading that skips the level is the first one whose section comes behind.
  obtain ⟨t, ht, hst⟩ := Nat.find_spec hbehind
  have hfirst : ∀ i < Nat.find hbehind, ∀ q, (titledParts ss)[i]? = some q → q.number ≤ s.number := fun i hi q hq =>
    Nat.not_lt.mp fun hlt => Nat.find_min hbehind hi ⟨q, hq, hlt⟩
  generalize Nat.find hbehind = j at ht hfirst
  have hlength : j < (body :: titledParts ss).length :=
    Nat.lt_succ_of_lt (List.getElem?_eq_some_iff.mp ht).1
  -- The titled section before that one, or the body, comes before the section.
  obtain ⟨p, hp⟩ : ∃ p, (body :: titledParts ss)[j]? = some p := ⟨_, List.getElem?_eq_getElem hlength⟩
  have hps : p ∈ body :: ss ∧ p.number < s.number := by
    cases j with
    | zero =>
      cases hp
      exact ⟨List.mem_cons_self, (List.pairwise_cons.mp h.pairwise_number).1 s hs⟩
    | succ i =>
      obtain ⟨hmemp, htitledp⟩ := mem_of_titled (i := i) hp
      have hmemp := List.mem_cons_of_mem body hmemp
      refine ⟨hmemp, Nat.lt_of_le_of_ne (hfirst i (Nat.lt_succ_self i) p hp) fun heq => ?_⟩
      rw [h.eq_of_number hmemp hmem heq, htitled] at htitledp
      cases htitledp
  have hno : ∀ r ∈ body :: ss, p.number < r.number → r.number < t.number → r.titled = false := by
    intro r hr h1 h2
    by_contra htitledr
    obtain ⟨m, hm⟩ := exists_titled hbody hr (eq_true_of_ne_false htitledr)
    have hjm := (number_lt_iff h (j := m + 1) hp hm).mp h1
    have hmj := (titled_number_lt_iff h hm ht).mp h2
    omega
  have htmem : t ∈ body :: ss := List.mem_cons_of_mem _ (mem_of_titled ht).1
  obtain ⟨hleft, hright, haround⟩ := h.between hps.1 hmem htmem hps.2 hst hno
  refine ⟨j, t, ht, haround, ?_, ?_⟩
  · rwa [levelBefore_of_heads hlevel hheads hp]
  · rwa [levelAt_of_heads hheads ht]

end Laws

theorem follows_sections {o : Outline} (h : o.Good 1) : Follows (passages (o.contents 1)) (o.sections [0] 1) where
  number := fun i s hi => by
    obtain ⟨hi', rfl⟩ := List.getElem?_eq_some_iff.mp hi
    exact (inOrder_sections h).number (i + 1) (Nat.succ_lt_succ hi')
  name := fun s hs => by
    have hgood : o.Good [0].length := h
    exact level_of_mem hgood (Nat.le_refl 1) hs
  heads := heads_sections o [0] 1
  within := fun i j s t hi hj => within_iff (inOrder_sections h) rfl (heads_sections o [0] 1) hi hj
  skipped := fun s hs htitled => ⟨contents_of_untitled hs htitled,
    exists_skipped (inOrder_sections h) rfl rfl (heads_sections o [0] 1) (fun _ hlast => last_sections h hlast) hs htitled⟩

/-- The sections of a body are the outline that the headings of its lines make, and each line contributes to
    what lies right inside the section of the last heading before it, or right inside the body. -/
theorem parts_ofLines (base : Option Text) (lines : List Text) : ∃ body sections,
    parts? (ofLines base lines) = some (body, sections) ∧
    body.contents = (opening (contents base lines)).flatMap Content.readings ∧
    Follows (passages (contents base lines)) sections := by
  obtain ⟨t, ⟨-, hgood⟩, hfragments, hcontents⟩ := exists_tree base lines
  have hopening : opening (contents base lines) = t.blocks.flatMap Block.contents := by
    rw [hcontents, Tree.contents, opening_append isTitle_blocks, opening_outline, List.append_nil]
  have hpassages : passages (contents base lines) = passages (t.sections.contents 1) := by
    rw [hcontents, Tree.contents, passages_append_left isTitle_blocks]
  rw [hopening, hpassages]
  exact ⟨_, _, parts_of_tree hfragments, rfl, follows_sections hgood⟩

/-- The second level is opened twice, without a title for the heading that skips it. -/
example : ((parts? (ofLines none ["= A =".toList, "=== B ===".toList, "text".toList, "== C ==".toList])).map
    fun p => p.2.map fun s => (s.number, s.around, s.titled)) =
    some [(1, [0], true), (2, [1, 0], false), (3, [2, 1, 0], true), (4, [1, 0], true)] := by
  decide +kernel

end Body
end WikiArticle
