import Mathlib.Data.List.Nodup
import PlatformLink.Proofs.Text.Trimming
import PlatformLink.Web.Header

/-!
# Headers as a table

Headers are looked up by a name in any case (`value?`). Each way of writing has one law for what is
found afterwards: a name that is set comes before what there was, and a name that is set only where
it is absent comes after it. A list is canonical in which every name is in small letters and occurs
once, and each way of writing keeps it so.
-/

namespace PlatformLink.Web

open Text (eqIgnoringCase lowerAscii)

/-! ## Names -/

theorem HeaderName.eq_of_parse {s : String} {n : HeaderName} (h : HeaderName.parse s = .ok n) :
    n = ⟨lowerAscii s⟩ := by
  unfold HeaderName.parse at h
  split at h
  · exact (Except.ok.inj h).symm
  · cases h

/-- A name as it is kept. -/
def HeaderName.IsLower (n : HeaderName) : Prop :=
  lowerAscii n.text = n.text

instance (n : HeaderName) : Decidable n.IsLower :=
  inferInstanceAs (Decidable (lowerAscii n.text = n.text))

theorem HeaderName.isLower_of_parse {s : String} {n : HeaderName}
    (h : HeaderName.parse s = .ok n) : n.IsLower := by
  rw [HeaderName.eq_of_parse h]
  exact Text.lowerAscii_lowerAscii s

/-- Names that are kept are the same as soon as they are so up to case. -/
theorem HeaderName.IsLower.eq_of_eqIgnoringCase {n m : HeaderName} (hn : n.IsLower)
    (hm : m.IsLower) (h : eqIgnoringCase n.text m.text = true) : n = m := by
  rw [Text.eqIgnoringCase_iff, hn, hm] at h
  exact congrArg HeaderName.mk h

/-- The value of a pair, if its name is the one that is looked for. -/
def valueUnder (name : String) (pair : String × String) : Option String :=
  if eqIgnoringCase pair.1 name then some pair.2 else none

theorem valueUnder_lowerAscii (name s value : String) :
    valueUnder name (lowerAscii s, value) = valueUnder name (s, value) := by
  rw [valueUnder, valueUnder, eqIgnoringCase, Text.lowerAscii_lowerAscii]
  rfl

theorem valueUnder_of_eq {name s : String} (h : eqIgnoringCase s name = true) (value : String) :
    valueUnder name (s, value) = some value := if_pos h

theorem valueUnder_of_ne {name s : String} (h : eqIgnoringCase s name = false) (value : String) :
    valueUnder name (s, value) = none :=
  if_neg (Bool.eq_false_iff.mp h)

namespace Headers

variable {hs : Headers} {name : HeaderName}

/-! ## Looking up what was written -/

/-- The value under a name in any case. -/
def value? (hs : Headers) (name : String) : Option String :=
  hs.findSome? fun h => valueUnder name (h.1.text, h.2.text)

theorem value?_append (hs : Headers) (name : HeaderName) (value : HeaderValue) (s : String) :
    (hs.append name value).value? s =
      (hs.value? s).or (valueUnder s (name.text, value.text)) := by
  rw [value?, append, List.findSome?_append, List.findSome?_singleton, value?]

theorem contains_iff : hs.contains name = true ↔ name ∈ hs.map (·.1) := by
  simp [contains, get?, List.find?_isSome]

/-- What is there under a name is found under it in any case. -/
theorem isSome_value?_of_mem {s : String} (h : name ∈ hs.map (·.1))
    (hname : eqIgnoringCase name.text s = true) : (value? hs s).isSome = true := by
  obtain ⟨p, hp, rfl⟩ := List.mem_map.mp h
  rw [value?, List.findSome?_isSome_iff]
  exact ⟨p, hp, by rw [valueUnder_of_eq hname, Option.isSome_some]⟩

theorem value?_insertIfAbsent (hs : Headers) (name : HeaderName) (value : HeaderValue)
    (s : String) : (hs.insertIfAbsent name value).value? s =
      (hs.value? s).or (valueUnder s (name.text, value.text)) := by
  unfold insertIfAbsent
  split
  next hthere =>
    cases hname : eqIgnoringCase name.text s with
    | true =>
      have hfound := isSome_value?_of_mem (contains_iff.mp hthere) hname
      rw [Option.or_of_isSome hfound]
    | false => rw [valueUnder_of_ne hname, Option.or_none]
  next => exact value?_append hs name value s

theorem value?_cons (p : HeaderName × HeaderValue) (hs : Headers) (s : String) :
    value? (p :: hs) s = (valueUnder s (p.1.text, p.2.text)).or (value? hs s) := by
  rw [value?, List.findSome?_cons]
  cases valueUnder s (p.1.text, p.2.text) <;> rfl

/-- Erasing a name leaves what is found under others. -/
theorem value?_erase {s : String} (h : eqIgnoringCase name.text s = false) (hs : Headers) :
    value? (hs.erase name) s = value? hs s := by
  induction hs with
  | nil => rfl
  | cons p rest ih =>
    rw [value?_cons, ← ih]
    by_cases hp : p.1 = name
    · rw [hp, valueUnder_of_ne h, Option.none_or]
      simp [erase, hp]
    · rw [← value?_cons]
      simp [erase, hp]

/-! ## Canonical lists -/

/-- Every name is in small letters, and occurs once. -/
structure Canonical (hs : Headers) : Prop where
  lower : ∀ h ∈ hs, h.1.IsLower
  single : (hs.map (·.1)).Nodup

theorem canonical_nil : Canonical [] where
  lower _ hmem := absurd hmem List.not_mem_nil
  single := .nil

namespace Canonical

theorem append (h : hs.Canonical) (hname : name.IsLower) (habsent : name ∉ hs.map (·.1))
    (value : HeaderValue) : (hs.append name value).Canonical where
  lower := by
    intro p hp
    rcases List.mem_append.mp hp with hp | hp
    · exact h.lower p hp
    · rwa [List.mem_singleton.mp hp]
  single := by
    rw [Headers.append, List.map_append, List.map_singleton, ← List.concat_eq_append]
    exact h.single.concat habsent

theorem insertIfAbsent (h : hs.Canonical) (hname : name.IsLower) (value : HeaderValue) :
    (hs.insertIfAbsent name value).Canonical := by
  unfold Headers.insertIfAbsent
  split
  next => exact h
  next habsent =>
    exact h.append hname (fun hmem => habsent (contains_iff.mpr hmem)) value

theorem insert (h : hs.Canonical) (hname : name.IsLower) (value : HeaderValue) :
    (hs.insert name value).Canonical := by
  have herased : (hs.erase name).Canonical :=
    ⟨fun p hp => h.lower p (List.mem_of_mem_filter hp),
      h.single.sublist (List.filter_sublist.map _)⟩
  exact herased.append hname (by simp [erase]) value

/-- No two names are equal up to case. -/
theorem pairwise (h : hs.Canonical) :
    hs.Pairwise fun p q => eqIgnoringCase p.1.text q.1.text = false := by
  have hne : hs.Pairwise fun p q => p.1 ≠ q.1 := List.pairwise_map.mp h.single
  refine hne.imp_of_mem fun hp hq hpq => ?_
  rw [Bool.eq_false_iff]
  exact fun hsame => hpq ((h.lower _ hp).eq_of_eqIgnoringCase (h.lower _ hq) hsame)

theorem value?_insert (h : hs.Canonical) (hname : name.IsLower) (value : HeaderValue)
    (s : String) : (hs.insert name value).value? s =
      (valueUnder s (name.text, value.text)).or (hs.value? s) := by
  refine (value?_append (hs.erase name) name value s).trans ?_
  cases hsame : eqIgnoringCase name.text s with
  | true =>
    -- all that is equal to the name up to case was erased
    have hnone : value? (hs.erase name) s = none := by
      rw [value?, List.findSome?_eq_none_iff]
      intro p hp
      obtain ⟨hmem, hne⟩ := List.mem_filter.mp hp
      refine valueUnder_of_ne (Bool.eq_false_iff.mpr fun hp' => of_decide_eq_true hne ?_) _
      refine (h.lower p hmem).eq_of_eqIgnoringCase hname ?_
      rw [Text.eqIgnoringCase_iff] at *
      exact hp'.trans hsame.symm
    rw [hnone, valueUnder_of_eq hsame, Option.none_or, Option.some_or]
  | false =>
    rw [valueUnder_of_ne hsame, Option.or_none, Option.none_or, value?_erase hsame]

end Canonical

end Headers

end PlatformLink.Web
