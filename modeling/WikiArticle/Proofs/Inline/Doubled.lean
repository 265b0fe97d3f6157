import WikiArticle.Proofs.Inline.Taken

/-! Delimiters judged on the text as it is given. The search looks at the text that earlier spans have left, in
    which a tag counts as content. So a delimiter before another of its kind opens a span once that one has
    been taken, although the text itself has no content behind it, and doubled delimiters give spans inside
    each other. Nowhere else does a delimiter that is taken differ from what the text says of it. -/

namespace WikiArticle
namespace Inline
open Markup Mark

namespace Emphasis

/-! ### Neighbours that are taken -/

namespace Replaced
variable {ts us : List Token} {ps : List Taken} {p q : Taken}

/-- The delimiter of a span behind the opening one of another opens its span too. -/
theorem opening_of_mem (h : Replaced ts ps us) (hp : p ∈ ps) (hq : q ∈ ps) (hm : p.opening + 1 ∈ q.places) :
    q.opening = p.opening + 1 := by
  have hp' := h.apart p hp
  have hq' := h.apart q hq
  rcases Taken.mem_places.mp hm with hopening | hclosing
  · exact hopening.symm
  · exact ((h.balanced q hq).not_crossing (h.balanced p hp) (h.opened p hp) (by omega) (by omega) (by omega)).elim

/-- The delimiter of a span before the closing one of another closes its span too. -/
theorem closing_of_mem {m : Nat} (h : Replaced ts ps us) (hp : p ∈ ps) (hq : q ∈ ps) (hmp : m + 1 = p.closing)
    (hm : m ∈ q.places) : q.closing + 1 = p.closing := by
  have hp' := h.apart p hp
  have hq' := h.apart q hq
  rcases Taken.mem_places.mp hm with hopening | hclosing
  · exact ((h.balanced p hp).not_crossing (h.balanced q hq) (h.opened q hq) (by omega) (by omega) (by omega)).elim
  · omega

theorem opensAt_iff (h : Replaced ts ps us) (hp : p ∈ ps) :
    OpensAt p.kind ts p.opening ↔ ∀ q ∈ ps, q.kind = p.kind → q.opening ≠ p.opening + 1 := by
  constructor
  · rintro ⟨-, ⟨u, hu, hcontent⟩, -⟩ q hq hk hopening
    rw [← hopening, h.source q hq q.opening q.opening_mem_places, hk] at hu
    cases hu
    rw [Token.first, not_isContent_delimiter] at hcontent
    cases hcontent
  · intro hno
    obtain ⟨u, hu, hcontent | ⟨q, hq, hk, hm⟩⟩ := (h.judged p hp).behindOpening
    · exact ⟨h.source p hp _ p.opening_mem_places, ⟨u, hu, hcontent⟩, (h.judged p hp).beforeOpening⟩
    · exact absurd (h.opening_of_mem hp hq hm) (hno q hq hk)

theorem closesAt_iff (h : Replaced ts ps us) (hp : p ∈ ps) :
    ClosesAt p.kind ts p.closing ↔ ∀ q ∈ ps, q.kind = p.kind → q.closing + 1 ≠ p.closing := by
  constructor
  · rintro ⟨-, ⟨m, u, hm, hu, hcontent⟩, -⟩ q hq hk hclosing
    obtain rfl : m = q.closing := by omega
    rw [h.source q hq q.closing q.closing_mem_places, hk] at hu
    cases hu
    rw [Token.last, not_isContent_delimiter] at hcontent
    cases hcontent
  · intro hno
    obtain ⟨m, u, hmp, hu, hcontent | ⟨q, hq, hk, hm⟩⟩ := (h.judged p hp).beforeClosing
    · exact ⟨h.source p hp _ p.closing_mem_places, ⟨m, u, hmp, hu, hcontent⟩,
        (h.judged p hp).behindClosing⟩
    · exact absurd (h.closing_of_mem hp hq hmp hm) (hno q hq hk)

end Replaced

/-! ### Texts without tags -/

/-- The character `i` of the text is a delimiter behind which stands content, and before which stands no letter
    or number. -/
structure OpensIn (k : Emphasis) (t : Text) (i : Nat) : Prop where
  delimiter : t[i]? = some k.delimiter
  behind : ∃ c, t[i + 1]? = some c ∧ k.isContent c = true
  before : ∀ m c, m + 1 = i → t[m]? = some c → Text.isAlphanumeric c = false

/-- The character `i` of the text is a delimiter before which stands content, and behind which stands no letter
    or number. -/
structure ClosesIn (k : Emphasis) (t : Text) (i : Nat) : Prop where
  delimiter : t[i]? = some k.delimiter
  before : ∃ m c, m + 1 = i ∧ t[m]? = some c ∧ k.isContent c = true
  behind : ∀ c, t[i + 1]? = some c → Text.isAlphanumeric c = false

variable {k : Emphasis} {t : Text} {i : Nat}

theorem getElem?_tokens (h : '<' ∉ t) (m : Nat) : (tokens t)[m]? = t[m]?.map Token.char := by
  rw [tokens_chars h, List.getElem?_map]

theorem opensIn_iff (h : '<' ∉ t) : OpensIn k t i ↔ OpensAt k (tokens t) i := by
  constructor
  · rintro ⟨hdelimiter, ⟨c, hc, hcontent⟩, hbefore⟩
    refine ⟨by rw [getElem?_tokens h, hdelimiter]; rfl, ⟨.char c, by rw [getElem?_tokens h, hc]; rfl, hcontent⟩, ?_⟩
    intro m u hm hu
    rw [getElem?_tokens h] at hu
    obtain ⟨c, hc, rfl⟩ := Option.map_eq_some_iff.mp hu
    exact hbefore m c hm hc
  · rintro ⟨hdelimiter, ⟨u, hu, hcontent⟩, hbefore⟩
    rw [getElem?_tokens h] at hdelimiter hu
    obtain ⟨a, ha, hchar⟩ := Option.map_eq_some_iff.mp hdelimiter
    cases hchar
    obtain ⟨c, hc, rfl⟩ := Option.map_eq_some_iff.mp hu
    exact ⟨ha, ⟨c, hc, hcontent⟩, fun m c hm hc => hbefore m (.char c) hm (by rw [getElem?_tokens h, hc]; rfl)⟩

theorem closesIn_iff (h : '<' ∉ t) : ClosesIn k t i ↔ ClosesAt k (tokens t) i := by
  constructor
  · rintro ⟨hdelimiter, ⟨m, c, hm, hc, hcontent⟩, hbehind⟩
    refine ⟨by rw [getElem?_tokens h, hdelimiter]; rfl, ⟨m, .char c, hm, by rw [getElem?_tokens h, hc]; rfl, hcontent⟩, ?_⟩
    intro u hu
    rw [getElem?_tokens h] at hu
    obtain ⟨c, hc, rfl⟩ := Option.map_eq_some_iff.mp hu
    exact hbehind c hc
  · rintro ⟨hdelimiter, ⟨m, u, hm, hu, hcontent⟩, hbehind⟩
    rw [getElem?_tokens h] at hdelimiter hu
    obtain ⟨a, ha, hchar⟩ := Option.map_eq_some_iff.mp hdelimiter
    cases hchar
    obtain ⟨c, hc, rfl⟩ := Option.map_eq_some_iff.mp hu
    exact ⟨ha, ⟨m, c, hm, hc, hcontent⟩, fun c hc => hbehind (.char c) (by rw [getElem?_tokens h, hc]; rfl)⟩

/-- In a text without tags a delimiter that opens a span is one at which a span can open by the text itself,
    unless the next character is a delimiter of the same kind that opens a span as well. In the same way
    one that closes a span is one at which a span can close by the text itself, unless the character before
    it closes a span of the same kind. -/
theorem taken_fits_iff (h : '<' ∉ t) : ∀ p ∈ taken t,
    (OpensIn p.kind t p.opening ↔ ∀ q ∈ taken t, q.kind = p.kind → q.opening ≠ p.opening + 1) ∧
    (ClosesIn p.kind t p.closing ↔ ∀ q ∈ taken t, q.kind = p.kind → q.closing + 1 ≠ p.closing) := by
  intro p hp
  have hreplaced := (takes_markUp t).replaced
  exact ⟨(opensIn_iff h).trans (hreplaced.opensAt_iff hp), (closesIn_iff h).trans (hreplaced.closesAt_iff hp)⟩

/-- In `**a**` the outer delimiters are taken as well, and no span can open or close at them by the text. -/
theorem taken_doubled : '<' ∉ "**a**".toList ∧ taken "**a**".toList = [⟨.bold, 1, 3⟩, ⟨.bold, 0, 4⟩] ∧
    ¬OpensIn .bold "**a**".toList 0 ∧ ¬ClosesIn .bold "**a**".toList 4 := by
  have hlt : '<' ∉ "**a**".toList := by decide
  have htaken : taken "**a**".toList = [⟨.bold, 1, 3⟩, ⟨.bold, 0, 4⟩] := by decide +kernel
  have houter : (⟨.bold, 0, 4⟩ : Taken) ∈ taken "**a**".toList := by rw [htaken]; decide
  have hinner : (⟨.bold, 1, 3⟩ : Taken) ∈ taken "**a**".toList := by rw [htaken]; decide
  obtain ⟨hopens, hcloses⟩ := taken_fits_iff hlt _ houter
  exact ⟨hlt, htaken, fun ho => hopens.mp ho _ hinner rfl rfl, fun hc => hcloses.mp hc _ hinner rfl rfl⟩

end Emphasis
end Inline
end WikiArticle
