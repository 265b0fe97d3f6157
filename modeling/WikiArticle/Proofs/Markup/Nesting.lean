import Mathlib.Data.List.TakeWhile
import WikiArticle.Proofs.Markup.Token

/-! Which elements the tags of a text leave open. An end tag must name the innermost open element; one that
    does not, and a `<` that no `>` follows, leave no answer. A text that never ends an element from
    outside it does the same whatever is open outside it, so that such a text can be wrapped in a new
    element without disturbing what stands around it. -/

namespace WikiArticle
namespace Markup
open Token

/-! ### Open elements -/

/-- The name of the element that a start tag starts. -/
def elementName (inside : Text) : Text := inside.takeWhile (· != ' ')

theorem elementName_of_notMem {name : Text} (h : ' ' ∉ name) : elementName name = name :=
  List.takeWhile_eq_self_iff.mpr (Text.bne_of_notMem h)

/-- The elements that are open behind a token, the innermost first, where `s` are open before it. -/
def Token.apply : Token → List Text → Option (List Text)
  | .char _, s => some s
  | .start inside, s => some (elementName inside :: s)
  | .stop name, n :: s => if n = name then some s else none
  | .stop _, [] => none
  | .loose _, _ => none

theorem Token.apply_stop {name : Text} {s r : List Text} (h : (stop name).apply s = some r) : s = name :: r := by
  cases s with
  | nil => cases h
  | cons n s =>
    simp only [Token.apply] at h
    split at h
    · rename_i hn
      cases h
      rw [hn]
    · cases h

/-- The elements that are open behind some tokens, the innermost first, where `s` are open before them. -/
def openAfter : List Token → List Text → Option (List Text)
  | [], s => some s
  | k :: ts, s => (k.apply s).bind (openAfter ts)

/-- The elements that a text leaves open, the outermost first. -/
def openElements (t : Text) : Option (List Text) := (openAfter (tokens t) []).map List.reverse

/-- The text ends every element that it starts, and no other. -/
def Nested (t : Text) : Prop := Whole t ∧ openAfter (tokens t) [] = some []

theorem openAfter_append (ts us : List Token) (s : List Text) :
    openAfter (ts ++ us) s = (openAfter ts s).bind (openAfter us) := by
  induction ts generalizing s with
  | nil => rfl
  | cons k ts ih =>
    simp only [List.cons_append, openAfter]
    cases k.apply s with
    | none => rfl
    | some r => exact ih r

theorem openAfter_chars (t : Text) (s : List Text) : openAfter (t.map char) s = some s := by
  induction t with
  | nil => rfl
  | cons c t ih => simpa [openAfter, Token.apply] using ih

/-- Every end tag ends the innermost element, where `s` are open before the tokens, the innermost first. -/
def EndsInnermost (s : List Text) (ts : List Token) : Prop :=
  ∀ us name vs, ts = us ++ stop name :: vs → ∃ outer, openAfter us s = some (name :: outer)

theorem endsInnermost_of_openAfter {ts : List Token} {s r : List Text} (h : openAfter ts s = some r) :
    EndsInnermost s ts := by
  rintro us name vs rfl
  rw [openAfter_append] at h
  obtain ⟨u, hu, h⟩ := Option.bind_eq_some_iff.mp h
  obtain ⟨outer, hstop, -⟩ := Option.bind_eq_some_iff.mp h
  exact ⟨outer, by rw [hu, Token.apply_stop hstop]⟩

/-- Whether a token is anything but a character outside the tags. -/
def Token.isTag : Token → Bool
  | .char _ => false
  | _ => true

/-- Tokens that start no element end elements from the innermost outwards. -/
theorem stops_of_openAfter {ts : List Token} {s r : List Text} (hts : ∀ inside, start inside ∉ ts)
    (h : openAfter ts s = some r) : ∃ names, s = names ++ r ∧ ts.filter Token.isTag = names.map stop := by
  induction ts generalizing s with
  | nil =>
    cases h
    exact ⟨[], rfl, rfl⟩
  | cons k ts ih =>
    obtain ⟨v, hv, h⟩ := Option.bind_eq_some_iff.mp h
    obtain ⟨names, rfl, hnames⟩ := ih (fun inside hmem => hts inside (List.mem_cons_of_mem _ hmem)) h
    cases k with
    | char c =>
      cases hv
      exact ⟨names, rfl, hnames⟩
    | start inside => exact absurd List.mem_cons_self (hts inside)
    | loose rest => cases hv
    | stop name =>
      obtain rfl := Token.apply_stop hv
      exact ⟨name :: names, rfl, by rw [List.filter_cons_of_pos rfl, hnames, List.map_cons]⟩

/-! ### Depth -/

/-- The number of elements open behind a token, if none of `n` open ones is ended by it but the innermost. -/
def Token.depth? : Token → Nat → Option Nat
  | .char _, n => some n
  | .start _, n => some (n + 1)
  | .stop _, n + 1 => some n
  | .stop _, 0 => none
  | .loose _, _ => none

/-- The number of elements open behind some tokens, if they end no more than `n` and those they start. -/
def depthAfter : List Token → Nat → Option Nat
  | [], n => some n
  | k :: ts, n => (k.depth? n).bind (depthAfter ts)

theorem depthAfter_append (ts us : List Token) (n : Nat) :
    depthAfter (ts ++ us) n = (depthAfter ts n).bind (depthAfter us) := by
  induction ts generalizing n with
  | nil => rfl
  | cons k ts ih =>
    simp only [List.cons_append, depthAfter]
    cases k.depth? n with
    | none => rfl
    | some m => exact ih m

/-! ### What stands outside -/

theorem Token.apply_outside {k : Token} {u v : List Text} (h : k.apply u = some v) (s : List Text) :
    k.apply (u ++ s) = some (v ++ s) := by
  cases k with
  | char c =>
    cases h
    rfl
  | start inside =>
    cases h
    rfl
  | stop name =>
    obtain rfl := Token.apply_stop h
    exact if_pos rfl
  | loose rest => cases h

theorem Token.apply_inside {k : Token} {u s r : List Text} {n : Nat} (hd : k.depth? u.length = some n)
    (h : k.apply (u ++ s) = some r) : ∃ v, r = v ++ s ∧ v.length = n ∧ k.apply u = some v := by
  cases k with
  | char c =>
    cases hd
    cases h
    exact ⟨u, rfl, rfl, rfl⟩
  | start inside =>
    cases hd
    cases h
    exact ⟨elementName inside :: u, rfl, rfl, rfl⟩
  | stop name =>
    cases u with
    | nil => cases hd
    | cons m u =>
      cases hd
      obtain ⟨rfl, rfl⟩ := List.cons.inj (Token.apply_stop h)
      exact ⟨u, rfl, rfl, if_pos rfl⟩
  | loose rest => cases h

theorem openAfter_outside {ts : List Token} {u v : List Text} (h : openAfter ts u = some v) (s : List Text) :
    openAfter ts (u ++ s) = some (v ++ s) := by
  induction ts generalizing u with
  | nil =>
    cases h
    rfl
  | cons k ts ih =>
    obtain ⟨w, hw, h⟩ := Option.bind_eq_some_iff.mp h
    rw [openAfter, Token.apply_outside hw s]
    exact ih h

theorem openAfter_inside {ts : List Token} {u s r : List Text} {n : Nat} (hd : depthAfter ts u.length = some n)
    (h : openAfter ts (u ++ s) = some r) : ∃ v, r = v ++ s ∧ v.length = n ∧ openAfter ts u = some v := by
  induction ts generalizing u with
  | nil =>
    cases hd
    cases h
    exact ⟨u, rfl, rfl, rfl⟩
  | cons k ts ih =>
    obtain ⟨m, hm, hd⟩ := Option.bind_eq_some_iff.mp hd
    obtain ⟨w, hw, h⟩ := Option.bind_eq_some_iff.mp h
    obtain ⟨v, rfl, rfl, hv⟩ := Token.apply_inside hm hw
    obtain ⟨x, rfl, hx, hxs⟩ := ih hd h
    exact ⟨x, rfl, hx, by rw [openAfter, hv, Option.bind_some, hxs]⟩

theorem Nested.openAfter {t : Text} (h : Nested t) (s : List Text) : openAfter (tokens t) s = some s := by
  simpa using openAfter_outside h.2 s

/-- Two characters between which no element is ended that was started before, and none left open, can
    become the tags of an element. -/
theorem openAfter_wrap {as bs cs : List Token} {a c : Char} {inside : Text} {s r : List Text}
    (hd : depthAfter bs 0 = some 0) (h : openAfter (as ++ char a :: (bs ++ char c :: cs)) s = some r) :
    openAfter (as ++ start inside :: (bs ++ stop (elementName inside) :: cs)) s = some r := by
  rw [openAfter_append] at h ⊢
  obtain ⟨u, hu, h⟩ := Option.bind_eq_some_iff.mp h
  rw [hu]
  simp only [Option.bind_some, openAfter, Token.apply] at h ⊢
  rw [openAfter_append] at h ⊢
  obtain ⟨v, hv, h⟩ := Option.bind_eq_some_iff.mp h
  -- What lies between the two ends nothing outside itself, so it can run above the new element as well.
  obtain ⟨w, rfl, hw, hbs⟩ := openAfter_inside (u := []) hd hv
  obtain rfl := List.length_eq_zero_iff.mp hw
  have hin := openAfter_outside hbs (elementName inside :: u)
  simp only [List.nil_append] at hin h
  rw [hin]
  simpa [openAfter, Token.apply] using h

end Markup
end WikiArticle
