import PlatformLink.Text.Whole

/-!
# The numbers that texts write

A whole number is written by decimal digits, at least one and with any number of zeros at the front,
and a plus sign may stand before them. What the digits write is said by their places and without a
bound; reading gives exactly the numbers that take 64 bits.
-/

namespace PlatformLink.Text

/-- The number that decimal digits write: each counts by its place. -/
def decimalValue : List Char → Nat
  | [] => 0
  | c :: cs => (c.toNat - '0'.toNat) * Nat.pow 10 cs.length + decimalValue cs

/-- Characters that write a number. -/
def WritesWhole (cs : List Char) (n : Nat) : Prop :=
  ∃ sign digits, cs = sign ++ digits ∧ (sign = [] ∨ sign = ['+']) ∧ digits ≠ [] ∧
    (∀ c ∈ digits, c.isDigit = true) ∧ decimalValue digits = n

theorem digitValue?_of_isDigit {c : Char} (h : c.isDigit = true) :
    digitValue? c = some (c.toNat - '0'.toNat) := by
  refine if_pos ?_
  have hrange := Char.isDigit_iff_toNat.mp h
  exact ⟨Char.le_def.mpr (UInt32.le_iff_toNat_le.mpr hrange.1),
    Char.le_def.mpr (UInt32.le_iff_toNat_le.mpr hrange.2)⟩

theorem digitValue?_of_not_isDigit {c : Char} (h : c.isDigit = false) : digitValue? c = none := by
  refine if_neg fun hrange => ?_
  have hdigit : c.isDigit = true := Char.isDigit_iff_toNat.mpr
    ⟨UInt32.le_iff_toNat_le.mp (Char.le_def.mp hrange.1),
      UInt32.le_iff_toNat_le.mp (Char.le_def.mp hrange.2)⟩
  rw [h] at hdigit
  cases hdigit

/-- Digits behind those of `n` move it by as many places. -/
theorem digitsFrom_eq_some_iff (n m : Nat) (cs : List Char) :
    digitsFrom n cs = some m ↔
      (∀ c ∈ cs, c.isDigit = true) ∧ n * Nat.pow 10 cs.length + decimalValue cs = m := by
  induction cs generalizing n with
  | nil => simp [digitsFrom, decimalValue]
  | cons c cs ih =>
    cases hc : c.isDigit with
    | false => simp [digitsFrom, digitValue?_of_not_isDigit hc, hc]
    | true =>
      have hplaces : (n * 10 + (c.toNat - '0'.toNat)) * Nat.pow 10 cs.length + decimalValue cs =
          n * Nat.pow 10 (c :: cs).length + decimalValue (c :: cs) := by
        have hpow : Nat.pow 10 (c :: cs).length = 10 * Nat.pow 10 cs.length := Nat.mul_comm _ _
        rw [decimalValue, hpow, Nat.add_mul, Nat.mul_assoc, Nat.add_assoc]
      rw [digitsFrom, digitValue?_of_isDigit hc, Option.bind_some, ih, hplaces,
        List.forall_mem_cons, hc, eq_self, true_and]

theorem uint64OfDigits_eq_some_iff (cs : List Char) (n : UInt64) :
    uint64OfDigits cs = some n ↔
      cs ≠ [] ∧ (∀ c ∈ cs, c.isDigit = true) ∧ decimalValue cs = n.toNat := by
  cases cs with
  | nil => simp [uint64OfDigits]
  | cons c cs =>
    have hread (m : Nat) : digitsFrom 0 (c :: cs) = some m ↔
        (∀ d ∈ c :: cs, d.isDigit = true) ∧ decimalValue (c :: cs) = m := by
      rw [digitsFrom_eq_some_iff, Nat.zero_mul, Nat.zero_add]
    simp only [uint64OfDigits, List.isEmpty_cons, Bool.false_eq_true, if_false,
      Option.bind_eq_some_iff, hread, ne_eq, List.cons_ne_nil, not_false_eq_true, true_and]
    constructor
    · rintro ⟨m, ⟨hdigits, rfl⟩, hfits⟩
      split at hfits
      next hlt =>
        rw [← Option.some.inj hfits, UInt64.toNat_ofNat_of_lt' hlt]
        exact ⟨hdigits, rfl⟩
      next => cases hfits
    · rintro ⟨hdigits, hvalue⟩
      refine ⟨n.toNat, ⟨hdigits, hvalue⟩, ?_⟩
      rw [if_pos n.toNat_lt_size, UInt64.ofNat_toNat]

/-- What is read is what is written. -/
theorem uint64?_eq_some_iff (s : String) (n : UInt64) :
    uint64? s = some n ↔ WritesWhole s.toList n.toNat := by
  unfold uint64?
  split
  next cs hs =>
    rw [uint64OfDigits_eq_some_iff, hs]
    constructor
    · rintro ⟨hne, hdigits, hvalue⟩
      exact ⟨['+'], cs, rfl, Or.inr rfl, hne, hdigits, hvalue⟩
    · rintro ⟨sign, digits, hcs, rfl | rfl, hne, hdigits, hvalue⟩
      · rw [List.nil_append] at hcs
        exact absurd (hdigits '+' (hcs ▸ List.mem_cons_self)) (by decide)
      · obtain rfl : cs = digits := (List.cons.inj hcs).2
        exact ⟨hne, hdigits, hvalue⟩
  next hplus =>
    rw [uint64OfDigits_eq_some_iff]
    constructor
    · rintro ⟨hne, hdigits, hvalue⟩
      exact ⟨[], s.toList, rfl, Or.inl rfl, hne, hdigits, hvalue⟩
    · rintro ⟨sign, digits, hcs, rfl | rfl, hne, hdigits, hvalue⟩
      · rw [hcs]
        exact ⟨hne, hdigits, hvalue⟩
      · exact absurd hcs (hplus digits)

/-- Nothing is read where no number is written that fits. -/
theorem uint64?_eq_none_iff (s : String) :
    uint64? s = none ↔ ∀ n, WritesWhole s.toList n → UInt64.size ≤ n := by
  rw [Option.eq_none_iff_forall_ne_some]
  simp only [ne_eq, uint64?_eq_some_iff]
  constructor
  · intro h n hn
    refine Nat.le_of_not_lt fun hlt => h (UInt64.ofNat n) ?_
    rwa [UInt64.toNat_ofNat_of_lt' hlt]
  · intro h n hn
    exact absurd n.toNat_lt_size (Nat.not_lt_of_le (h n.toNat hn))

end PlatformLink.Text
