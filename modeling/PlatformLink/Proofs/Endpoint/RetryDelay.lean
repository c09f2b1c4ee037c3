import Mathlib.Data.List.Basic
import PlatformLink.Proofs.Endpoint.Status
import PlatformLink.Proofs.Text.Trimming
import PlatformLink.Proofs.Text.Whole

/-!
# How long to wait

A response that there were too many requests may say how long to wait. Only the first of its values
under the name `retry-after` counts, and it counts if nothing but visible characters, spaces and
tabs are in it and if it writes a number of 64 bits once it is trimmed: blanks, a plus sign or none,
digits, and blanks again. Whatever else the value is, the response says that there were too many
requests and leaves the time open.
-/

namespace PlatformLink

theorem Duration.ofSeconds_inj {m n : Nat} (h : Duration.ofSeconds m = .ofSeconds n) : m = n := by
  rw [← Duration.seconds_ofSeconds m, h, Duration.seconds_ofSeconds]

namespace Web

namespace Headers

/-- The first value of a name. -/
def IsFirst (hs : Headers) (name : HeaderName) (v : HeaderValue) : Prop :=
  ∃ before after, hs = before ++ (name, v) :: after ∧ ∀ h ∈ before, h.1 ≠ name

theorem get?_eq_some_iff {hs : Headers} {name : HeaderName} {v : HeaderValue} :
    hs.get? name = some v ↔ hs.IsFirst name v := by
  rw [get?, Option.map_eq_some_iff]
  constructor
  · rintro ⟨⟨n, w⟩, hfound, rfl⟩
    obtain ⟨hname, before, after, rfl, hbefore⟩ := List.find?_eq_some_iff_append.mp hfound
    obtain rfl : n = name := of_decide_eq_true hname
    refine ⟨before, after, rfl, ?_⟩
    intro h hh
    simpa using hbefore h hh
  · rintro ⟨before, after, rfl, hbefore⟩
    refine ⟨(name, v), ?_, rfl⟩
    apply List.find?_eq_some_iff_append.mpr
    refine ⟨decide_eq_true rfl, before, after, rfl, ?_⟩
    intro h hh
    simpa using hbefore h hh

end Headers

/-- Visible ASCII, the space and the tab. -/
def IsShown (c : Char) : Prop :=
  c = '\t' ∨ 0x20 ≤ c.toNat ∧ c.toNat < 0x7F

theorem HeaderValue.isVisible_iff {v : HeaderValue} :
    v.isVisible = true ↔ ∀ c ∈ v.text.toList, IsShown c := by
  rw [isVisible, List.all_eq_true]
  apply forall₂_congr
  intro c _
  simp [IsShown, or_comm]

theorem IsShown.of_isDigit {c : Char} (h : c.isDigit = true) : IsShown c := by
  have hrange : 48 ≤ c.toNat ∧ c.toNat ≤ 57 := Char.isDigit_iff_toNat.mp h
  exact Or.inr ⟨by omega, by omega⟩

/-- The only blanks that are shown. -/
theorem IsShown.of_blank {c : Char} (h : IsShown c) (hblank : Text.isBlankChar c = true) :
    c = ' ' ∨ c = '\t' := by
  rcases h with rfl | ⟨hlow, hhigh⟩
  · exact Or.inr rfl
  · left
    have hcode : c.toNat = 0x20 := by
      simp only [Text.isBlankChar, Bool.or_eq_true, Bool.and_eq_true, decide_eq_true_eq,
        beq_iff_eq] at hblank
      omega
    rw [← Char.ofNat_toNat c, hcode]

end Web

namespace Endpoint

open Text (WritesWhole decimalValue)
open Web (Headers HeaderName HeaderValue IsShown Response)

/-- A value that asks to wait for a number of seconds. -/
structure AsksToWait (v : HeaderValue) (n : Nat) : Prop where
  shown : ∀ c ∈ v.text.toList, IsShown c
  written : WritesWhole (Text.trim v.text).toList n
  fits : n < UInt64.size

/-- The same, spelled out from the first character to the last. -/
def SpellsWait (v : HeaderValue) (n : Nat) : Prop :=
  ∃ left sign digits right, v.text.toList = left ++ (sign ++ digits) ++ right ∧
    (∀ c ∈ left ++ right, c = ' ' ∨ c = '\t') ∧ (sign = [] ∨ sign = ['+']) ∧ digits ≠ [] ∧
    (∀ c ∈ digits, c.isDigit = true) ∧ decimalValue digits = n ∧ n < UInt64.size

theorem isBlankChar_of_isDigit {c : Char} (h : c.isDigit = true) : Text.isBlankChar c = false := by
  have hrange : 48 ≤ c.toNat ∧ c.toNat ≤ 57 := Char.isDigit_iff_toNat.mp h
  simp only [Text.isBlankChar, Bool.or_eq_false_iff, Bool.and_eq_false_iff, decide_eq_false_iff_not,
    beq_eq_false_iff_ne]
  omega

theorem AsksToWait.spells {v : HeaderValue} {n : Nat} (h : AsksToWait v n) : SpellsWait v n := by
  obtain ⟨left, right, hchars, hleft, hright⟩ :=
    Text.exists_eq_append_trimBoth Text.isBlankChar v.text.toList
  obtain ⟨sign, digits, htrim, hsign, hne, hdigits, hvalue⟩ := h.written
  rw [Text.trim, String.toList_ofList] at htrim
  rw [htrim] at hchars
  refine ⟨left, sign, digits, right, hchars, ?_, hsign, hne, hdigits, hvalue, h.fits⟩
  intro c hc
  have hshown : IsShown c := by
    apply h.shown c
    rw [hchars]
    rcases List.mem_append.mp hc with hc | hc
    · exact List.mem_append_left _ (List.mem_append_left _ hc)
    · exact List.mem_append_right _ hc
  rcases List.mem_append.mp hc with hc | hc
  · exact hshown.of_blank (hleft c hc)
  · exact hshown.of_blank (hright c hc)

theorem SpellsWait.asks {v : HeaderValue} {n : Nat} (h : SpellsWait v n) : AsksToWait v n := by
  obtain ⟨left, sign, digits, right, hchars, hblank, hsign, hne, hdigits, hvalue, hfits⟩ := h
  have hpad : ∀ c ∈ left ++ right, IsShown c ∧ Text.isBlankChar c = true := by
    intro c hc
    rcases hblank c hc with rfl | rfl
    · exact ⟨Or.inr (by decide), rfl⟩
    · exact ⟨Or.inl rfl, rfl⟩
  have hnumber : ∀ c ∈ sign ++ digits, IsShown c ∧ Text.isBlankChar c = false := by
    intro c hc
    rcases List.mem_append.mp hc with hc | hc
    · rcases hsign with rfl | rfl
      · cases hc
      · obtain rfl := List.mem_singleton.mp hc
        exact ⟨Or.inr (by decide), rfl⟩
    · exact ⟨.of_isDigit (hdigits c hc), isBlankChar_of_isDigit (hdigits c hc)⟩
  refine ⟨?_, ?_, hfits⟩
  · intro c hc
    rw [hchars] at hc
    simp only [List.mem_append] at hc hpad hnumber
    rcases hc with (hc | hc) | hc
    · exact (hpad c (Or.inl hc)).1
    · exact (hnumber c hc).1
    · exact (hpad c (Or.inr hc)).1
  · rw [Text.trim, String.toList_ofList, hchars,
      Text.trimBoth_pad (fun c hc => (hpad c (List.mem_append_left _ hc)).2)
        (fun c hc => (hpad c (List.mem_append_right _ hc)).2),
      Text.trimBoth_eq_self fun c hc => (hnumber c hc).2]
    exact ⟨sign, digits, rfl, hsign, hne, hdigits, hvalue⟩

/-- What is read of a response is what its first value asks for. -/
theorem retryAfter_eq_some_iff (r : Response) (d : Duration) :
    retryAfter r = some d ↔
      ∃ v n, r.headers.IsFirst .retryAfter v ∧ AsksToWait v n ∧ d = .ofSeconds n := by
  simp only [← Headers.get?_eq_some_iff]
  constructor
  · intro h
    obtain ⟨v, hv, h⟩ := Option.bind_eq_some_iff.mp h
    dsimp only at h
    split at h
    next hvisible =>
      obtain ⟨w, hw, hread⟩ := Option.bind_eq_some_iff.mp h
      obtain ⟨n, hn, hd⟩ := Option.bind_eq_some_iff.mp hread
      obtain rfl := Option.some.inj hw
      refine ⟨v, n.toNat, hv, ⟨Web.HeaderValue.isVisible_iff.mp hvisible, ?_, n.toNat_lt_size⟩,
        (Option.some.inj hd).symm⟩
      exact (Text.uint64?_eq_some_iff _ n).mp hn
    next => cases h
  · rintro ⟨v, n, hv, hasks, rfl⟩
    have hread : Text.uint64? (Text.trim v.text) = some (UInt64.ofNat n) := by
      rw [Text.uint64?_eq_some_iff, UInt64.toNat_ofNat_of_lt' hasks.fits]
      exact hasks.written
    have hvisible := Web.HeaderValue.isVisible_iff.mpr hasks.shown
    simp [retryAfter, hv, hvisible, hread, UInt64.toNat_ofNat_of_lt' hasks.fits]

/-- What a response of too many requests comes to. -/
structure TellsWait (r : Response) : Prop where
  /-- Whatever it holds, it is this error, with a time or without one. -/
  limited : ∃ wait, checkStatus r = .error (.rateLimited wait)
  /-- The time is the one that the first value asks for. -/
  told : ∀ n, checkStatus r = .error (.rateLimited (some (.ofSeconds n))) ↔
    ∃ v, r.headers.IsFirst .retryAfter v ∧ AsksToWait v n
  /-- No other time is told. -/
  whole : ∀ d, checkStatus r = .error (.rateLimited (some d)) →
    ∃ n, n < UInt64.size ∧ d = .ofSeconds n
  /-- Otherwise the time is left open. -/
  untold : checkStatus r = .error (.rateLimited none) ↔
    ∀ v, r.headers.IsFirst .retryAfter v → ∀ n, ¬AsksToWait v n
  spelled : ∀ v n, AsksToWait v n ↔ SpellsWait v n

/-- A response of status 429 is an error of too many requests, and tells the time to wait exactly
where the first value of its header does. -/
theorem rateLimited_by_header {r : Response} (h : r.status = 429) : TellsWait r := by
  have hlimited : checkStatus r = .error (.rateLimited (retryAfter r)) :=
    checkStatus_eq_iff.mpr (.rateLimited h)
  have htold (d : Duration) : checkStatus r = .error (.rateLimited (some d)) ↔
      ∃ v n, r.headers.IsFirst .retryAfter v ∧ AsksToWait v n ∧ d = .ofSeconds n := by
    rw [hlimited, ← retryAfter_eq_some_iff]
    simp
  constructor
  case limited => exact ⟨_, hlimited⟩
  case told =>
    intro n
    rw [htold]
    constructor
    · rintro ⟨v, m, hfirst, hasks, hn⟩
      rw [Duration.ofSeconds_inj hn]
      exact ⟨v, hfirst, hasks⟩
    · rintro ⟨v, hfirst, hasks⟩
      exact ⟨v, n, hfirst, hasks, rfl⟩
  case whole =>
    intro d hd
    obtain ⟨v, n, -, hasks, rfl⟩ := (htold d).mp hd
    exact ⟨n, hasks.fits, rfl⟩
  case untold =>
    rw [hlimited]
    constructor
    · intro hnone v hfirst n hasks
      have hsome := (retryAfter_eq_some_iff r _).mpr ⟨v, n, hfirst, hasks, rfl⟩
      simp [hsome] at hnone
    · intro hnone
      cases hwait : retryAfter r with
      | none => rfl
      | some d =>
        obtain ⟨v, n, hfirst, hasks, -⟩ := (retryAfter_eq_some_iff r d).mp hwait
        exact absurd hasks (hnone v hfirst n)
  case spelled => exact fun v n => ⟨AsksToWait.spells, SpellsWait.asks⟩

/-- A response with a padded time, and with another one behind it. -/
def paddedWait : Response where
  status := 429
  headers := [(.accept, ⟨"9"⟩), (.retryAfter, ⟨"\t +0018446744073709551615 "⟩),
    (.retryAfter, ⟨"7"⟩)]
  body := []

theorem rateLimited_by_header_padded : paddedWait.status = 429 ∧ TellsWait paddedWait :=
  ⟨rfl, rateLimited_by_header rfl⟩

example : checkStatus paddedWait =
    .error (.rateLimited (some (.ofSeconds 18446744073709551615))) :=
  checkStatus_eq_iff.mpr (.rateLimited rfl)

example : retryAfter { paddedWait with headers := [(.retryAfter, ⟨"18446744073709551616"⟩)] } =
    none := by
  decide +kernel

end Endpoint

end PlatformLink
