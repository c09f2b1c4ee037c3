import Mathlib.Algebra.Order.BigOperators.Group.List
import PlatformLink.Proofs.Storage.Naming

/-!
# Entity names and the faults of other texts

A text is an entity name by its characters and their number, and whatever else is given is told the
first rule that it breaks. The rule on length says characters and counts octets. No name shows the
difference, because the characters of names take one octet each; but a text of 63 characters or
fewer may be refused as too long (`IsMiscounted`), where what is wrong with it is a character.
-/

namespace PlatformLink

/-! ## Octets and characters -/

namespace Text

theorem octetLength_eq_sum (s : String) : octetLength s = (s.toList.map Char.utf8Size).sum :=
  List.sum_eq_foldr.symm

theorem length_le_octetLength (s : String) : s.length ≤ octetLength s := by
  have hle := List.length_le_sum_of_one_le (s.toList.map Char.utf8Size) fun n hn => by
    obtain ⟨c, -, rfl⟩ := List.mem_map.mp hn
    exact c.utf8Size_pos
  rwa [List.length_map, String.length_toList, ← octetLength_eq_sum] at hle

theorem octetLength_le (s : String) : octetLength s ≤ s.length * 4 := by
  have hle := List.sum_le_card_nsmul (s.toList.map Char.utf8Size) 4 fun n hn => by
    obtain ⟨c, -, rfl⟩ := List.mem_map.mp hn
    exact c.utf8Size_le_four
  rwa [List.length_map, String.length_toList, ← octetLength_eq_sum] at hle

theorem octetLength_of_ascii {s : String} (h : ∀ c ∈ s.toList, c.utf8Size = 1) :
    octetLength s = s.length := by
  rw [octetLength_eq_sum, List.map_congr_left h, List.map_const', List.sum_replicate_nat,
    String.length_toList, Nat.mul_one]

end Text

namespace Validation

/-! ## Names -/

/-- The letters and digits of ASCII, hyphen, underscore and dot. -/
def IsNameChar (c : Char) : Prop :=
  'A' ≤ c ∧ c ≤ 'Z' ∨ 'a' ≤ c ∧ c ≤ 'z' ∨ '0' ≤ c ∧ c ≤ '9' ∨ c = '-' ∨ c = '_' ∨ c = '.'

theorem isAlphanum_iff (c : Char) :
    c.isAlphanum = true ↔ 'A' ≤ c ∧ c ≤ 'Z' ∨ 'a' ≤ c ∧ c ≤ 'z' ∨ '0' ≤ c ∧ c ≤ '9' := by
  have hupper : c.isUpper = true ↔ 'A' ≤ c ∧ c ≤ 'Z' := decide_eq_true_iff
  have hlower : c.isLower = true ↔ 'a' ≤ c ∧ c ≤ 'z' :=
    Bool.and_eq_true_iff.trans (and_congr decide_eq_true_iff decide_eq_true_iff)
  have hdigit : c.isDigit = true ↔ '0' ≤ c ∧ c ≤ '9' :=
    Bool.and_eq_true_iff.trans (and_congr decide_eq_true_iff decide_eq_true_iff)
  have hkinds : c.isAlphanum = (c.isUpper || c.isLower || c.isDigit) := rfl
  rw [hkinds, Bool.or_eq_true, Bool.or_eq_true, hupper, hlower, hdigit, or_assoc]

theorem isEntityNameChar_iff (c : Char) : isEntityNameChar c = true ↔ IsNameChar c := by
  simp only [isEntityNameChar, IsNameChar, isAlphanum_iff, Bool.or_eq_true, beq_iff_eq, or_assoc]

theorem isNameChar_dot : IsNameChar '.' :=
  (isEntityNameChar_iff '.').mp rfl

theorem utf8Size_of_isNameChar {c : Char} (h : IsNameChar c) : c.utf8Size = 1 := by
  have hcode := (toNat_of_isEntityNameChar ((isEntityNameChar_iff c).mpr h)).2
  exact Char.utf8Size_eq_one_iff.mpr (UInt32.le_iff_toNat_le.mpr (Nat.le_of_lt_succ
    (Nat.lt_succ_of_lt hcode)))

theorem isBlankChar_of_isNameChar {c : Char} (h : IsNameChar c) : Text.isBlankChar c = false := by
  have hcode := toNat_of_isEntityNameChar ((isEntityNameChar_iff c).mpr h)
  simp only [Text.isBlankChar, Bool.or_eq_false_iff, Bool.and_eq_false_iff, decide_eq_false_iff_not,
    beq_eq_false_iff_ne]
  omega

/-- Up to 63 letters, digits, hyphens, underscores and dots, not all of them dots. -/
structure IsEntityName (s : String) : Prop where
  nonempty : 1 ≤ s.length
  short : s.length ≤ 63
  chars : ∀ c ∈ s.toList, IsNameChar c
  not_dots : ∃ c ∈ s.toList, c ≠ '.'

/-- The first rule that a text breaks, in the order blank, too long, only dots, forbidden character;
`count` says how long a text is. -/
inductive FirstFault (count : String → Nat) (subject s : String) : TextFault → Prop where
  | blank (hblank : Text.trim s = "") : FirstFault count subject s (.blank subject)
  | tooLong (hblank : Text.trim s ≠ "") (hlong : 63 < count s) :
      FirstFault count subject s (.tooLong subject 63)
  | onlyDots (hblank : Text.trim s ≠ "") (hshort : count s ≤ 63) (hdots : ∀ c ∈ s.toList, c = '.') :
      FirstFault count subject s (.onlyDots subject)
  | forbiddenCharacter (hblank : Text.trim s ≠ "") (hshort : count s ≤ 63)
      (hdots : ∃ c ∈ s.toList, c ≠ '.') (hchars : ∃ c ∈ s.toList, ¬IsNameChar c) :
      FirstFault count subject s (.forbiddenCharacter subject)

/-- A text that is short enough by its characters and too long by its octets. -/
structure IsMiscounted (s : String) : Prop where
  not_blank : Text.trim s ≠ ""
  short : s.length ≤ 63
  long : 63 < Text.octetLength s

variable {subject s t : String} {fault : TextFault}

/-! ## The rules in their order -/

theorem ensure_bind {ε β : Type} (ok : String → Bool) (fault : ε) (s : String)
    (f : String → Except ε β) :
    ensure ok fault s >>= f = if ok s = true then f s else .error fault := by
  unfold ensure
  split <;> rfl

theorem entityName_eq (subject s : String) :
    entityName subject s =
      if Text.isBlank s = true then .error (.blank subject)
      else if 63 < Text.octetLength s then .error (.tooLong subject 63)
      else if s.toList.all (· == '.') = true then .error (.onlyDots subject)
      else if s.toList.all isEntityNameChar = true then .ok s
      else .error (.forbiddenCharacter subject) := by
  rw [entityName, notBlank, ensure_bind, atMost, ensure_bind, ensure_bind, ensure]
  simp only [entityNameLength, decide_eq_true_eq, ← Nat.not_lt, Bool.not_eq_true',
    ← Bool.not_eq_true, ite_not]

theorem allDots_iff : s.toList.all (· == '.') = true ↔ ∀ c ∈ s.toList, c = '.' := by
  simp only [List.all_eq_true, beq_iff_eq]

theorem not_allDots_iff : ¬s.toList.all (· == '.') = true ↔ ∃ c ∈ s.toList, c ≠ '.' := by
  rw [allDots_iff]
  push Not
  rfl

theorem allNameChars_iff : s.toList.all isEntityNameChar = true ↔ ∀ c ∈ s.toList, IsNameChar c := by
  simp only [List.all_eq_true, isEntityNameChar_iff]

theorem not_allNameChars_iff :
    ¬s.toList.all isEntityNameChar = true ↔ ∃ c ∈ s.toList, ¬IsNameChar c := by
  rw [allNameChars_iff]
  push Not
  rfl

theorem entityName_eq_error_iff :
    entityName subject s = .error fault ↔ FirstFault Text.octetLength subject s fault := by
  rw [entityName_eq]
  constructor
  · intro h
    split at h
    next hblank =>
      cases h
      exact .blank ((Text.trim_eq_empty_iff s).mpr hblank)
    next hblank =>
    have hshown := mt (Text.trim_eq_empty_iff s).mp hblank
    split at h
    next hlong =>
      cases h
      exact .tooLong hshown hlong
    next hlong =>
    have hshort := Nat.le_of_not_lt hlong
    split at h
    next hdots =>
      cases h
      exact .onlyDots hshown hshort (allDots_iff.mp hdots)
    next hdots =>
    split at h
    · cases h
    next hchars =>
    cases h
    exact .forbiddenCharacter hshown hshort (not_allDots_iff.mp hdots)
      (not_allNameChars_iff.mp hchars)
  · intro h
    have hshown (hblank : Text.trim s ≠ "") : ¬Text.isBlank s = true :=
      mt (Text.trim_eq_empty_iff s).mpr hblank
    cases h with
    | blank hblank => rw [if_pos ((Text.trim_eq_empty_iff s).mp hblank)]
    | tooLong hblank hlong => rw [if_neg (hshown hblank), if_pos hlong]
    | onlyDots hblank hshort hdots =>
      rw [if_neg (hshown hblank), if_neg (Nat.not_lt.mpr hshort), if_pos (allDots_iff.mpr hdots)]
    | forbiddenCharacter hblank hshort hdots hchars =>
      rw [if_neg (hshown hblank), if_neg (Nat.not_lt.mpr hshort),
        if_neg (not_allDots_iff.mpr hdots), if_neg (not_allNameChars_iff.mpr hchars)]

namespace IsEntityName

/-- A name takes as many octets as characters. -/
theorem octetLength_eq (h : IsEntityName s) : Text.octetLength s = s.length :=
  Text.octetLength_of_ascii fun c hc => utf8Size_of_isNameChar (h.chars c hc)

theorem not_blank (h : IsEntityName s) : ¬Text.isBlank s = true := by
  intro hblank
  obtain ⟨c, hc, -⟩ := h.not_dots
  have hchar := List.all_eq_true.mp hblank c hc
  rw [isBlankChar_of_isNameChar (h.chars c hc)] at hchar
  cases hchar

end IsEntityName

theorem entityName_eq_ok_iff : entityName subject s = .ok t ↔ t = s ∧ IsEntityName s := by
  rw [entityName_eq]
  constructor
  · intro h
    split at h
    · cases h
    split at h
    · cases h
    next hlong =>
    split at h
    · cases h
    next hdots =>
    split at h
    next hchars =>
      cases h
      obtain ⟨c, hc, hne⟩ := not_allDots_iff.mp hdots
      refine ⟨rfl, ?_, (Text.length_le_octetLength s).trans (Nat.le_of_not_lt hlong),
        allNameChars_iff.mp hchars, c, hc, hne⟩
      rw [← String.length_toList]
      exact List.length_pos_of_mem hc
    · cases h
  · rintro ⟨rfl, h⟩
    have hshort : ¬63 < Text.octetLength t := by
      rw [h.octetLength_eq]
      exact Nat.not_lt.mpr h.short
    rw [if_neg h.not_blank, if_neg hshort, if_neg (not_allDots_iff.mpr h.not_dots),
      if_pos (allNameChars_iff.mpr h.chars)]

/-! ## The length that is told -/

variable {count count' : String → Nat}

/-- Two ways of counting that agree on the limit find the same fault. -/
theorem FirstFault.congr (h : FirstFault count subject s fault)
    (hcount : Text.trim s ≠ "" → (63 < count s ↔ 63 < count' s)) :
    FirstFault count' subject s fault := by
  cases h with
  | blank hblank => exact .blank hblank
  | tooLong hblank hlong => exact .tooLong hblank ((hcount hblank).mp hlong)
  | onlyDots hblank hshort hdots =>
    exact .onlyDots hblank (Nat.not_lt.mp (mt (hcount hblank).mpr (Nat.not_lt.mpr hshort))) hdots
  | forbiddenCharacter hblank hshort hdots hchars =>
    exact .forbiddenCharacter hblank
      (Nat.not_lt.mp (mt (hcount hblank).mpr (Nat.not_lt.mpr hshort))) hdots hchars

/-- Octets and characters agree on the limit, unless the text is miscounted. -/
theorem long_iff_of_not_miscounted (h : ¬IsMiscounted s) (hblank : Text.trim s ≠ "") :
    63 < Text.octetLength s ↔ 63 < s.length := by
  have hle := Text.length_le_octetLength s
  constructor
  · intro hlong
    by_contra hshort
    exact h ⟨hblank, Nat.not_lt.mp hshort, hlong⟩
  · intro hlong
    omega

namespace IsMiscounted

theorem entityName_eq (h : IsMiscounted s) :
    entityName subject s = .error (.tooLong subject 63) :=
  entityName_eq_error_iff.mpr (.tooLong h.not_blank h.long)

/-- A text that is miscounted holds a character beyond those of names. -/
theorem exists_char (h : IsMiscounted s) : ∃ c ∈ s.toList, ¬IsNameChar c := by
  by_contra hnone
  push Not at hnone
  have hlength := Text.octetLength_of_ascii fun c hc => utf8Size_of_isNameChar (hnone c hc)
  have hshort := h.short
  have hlong := h.long
  omega

/-- What is wrong with a text that is miscounted is a character. -/
theorem firstFault (h : IsMiscounted s) :
    FirstFault String.length subject s (.forbiddenCharacter subject) := by
  obtain ⟨c, hc, hchar⟩ := h.exists_char
  refine .forbiddenCharacter h.not_blank h.short ⟨c, hc, ?_⟩ ⟨c, hc, hchar⟩
  rintro rfl
  exact hchar isNameChar_dot

/-- A text that is miscounted has at least 16 characters. -/
theorem length_ge (h : IsMiscounted s) : 16 ≤ s.length := by
  have hle := Text.octetLength_le s
  have hlong := h.long
  omega

end IsMiscounted

/-- What the rule for entity names accepts, and what it tells of the rest. -/
structure JudgesNames (subject s : String) : Prop where
  /-- Names are accepted as they are, and nothing else is. -/
  accepts : ∀ t, entityName subject s = .ok t ↔ t = s ∧ IsEntityName s
  /-- Any other text is told its first fault, where its length is the number of its octets. -/
  refuses : ∀ fault, entityName subject s = .error fault ↔
    FirstFault Text.octetLength subject s fault
  /-- This is the first fault by the number of characters too, unless the text is miscounted. -/
  truthful : (∀ fault, entityName subject s = .error fault ↔
    FirstFault String.length subject s fault) ↔ ¬IsMiscounted s
  /-- A text that is miscounted is called too long, and breaks the rule on characters. -/
  miscounted : IsMiscounted s → entityName subject s = .error (.tooLong subject 63) ∧
    ∀ fault, FirstFault String.length subject s fault ↔ fault = .forbiddenCharacter subject
  /-- No text of one octet for each character is miscounted, and none of fewer than 16
  characters. -/
  counted : (∀ c ∈ s.toList, c.utf8Size = 1) ∨ s.length < 16 → ¬IsMiscounted s

theorem judges_names (subject s : String) : JudgesNames subject s := by
  constructor
  case accepts => exact fun t => entityName_eq_ok_iff
  case refuses => exact fun fault => entityName_eq_error_iff
  case truthful =>
    constructor
    · intro hfaults h
      cases (hfaults _).mp h.entityName_eq with
      | tooLong hblank hlong => exact Nat.not_lt.mpr h.short hlong
    · intro h fault
      have hcount := long_iff_of_not_miscounted h
      rw [entityName_eq_error_iff]
      exact ⟨fun hf => hf.congr hcount, fun hf => hf.congr fun hblank => (hcount hblank).symm⟩
  case miscounted =>
    refine fun h => ⟨h.entityName_eq, fun fault => ⟨fun hf => ?_, ?_⟩⟩
    · obtain ⟨c, hc, hchar⟩ := h.exists_char
      cases hf with
      | blank hblank => exact absurd hblank h.not_blank
      | tooLong hblank hlong => exact absurd h.short (Nat.not_le.mpr hlong)
      | onlyDots hblank hshort hdots =>
        rw [hdots c hc] at hchar
        exact absurd isNameChar_dot hchar
      | forbiddenCharacter => rfl
    · rintro rfl
      exact h.firstFault
  case counted =>
    rintro (hascii | hfew) h
    · have hshort := h.short
      have hlong := h.long
      rw [Text.octetLength_of_ascii hascii] at hlong
      omega
    · exact Nat.not_lt.mpr h.length_ge hfew

/-- A text of 32 characters that is told to have at most 63. -/
theorem short_called_tooLong :
    (String.ofList (List.replicate 32 '\u00e9')).length = 32 ∧
      entityName "queue" (String.ofList (List.replicate 32 '\u00e9')) =
        .error (.tooLong "queue" 63) ∧
      (TextFault.tooLong "queue" 63).message = "queue must be at most 63 characters" ∧
      ¬∀ subject s fault, entityName subject s = .error fault →
        FirstFault String.length subject s fault := by
  have h : IsMiscounted (String.ofList (List.replicate 32 '\u00e9')) :=
    ⟨by decide, by decide, by decide⟩
  refine ⟨by decide, h.entityName_eq, by decide, fun hfaults => ?_⟩
  cases hfaults "queue" _ _ h.entityName_eq with
  | tooLong hblank hlong => exact Nat.not_lt.mpr h.short hlong

end Validation

end PlatformLink
