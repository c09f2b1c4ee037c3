import Mathlib.Tactic.NormNum
import Mathlib.Tactic.Positivity
import PlatformLink.Decimal.Shortest

/-!
# The length of a number in text

A number that is read has a mantissa and an exponent in a certain range, and the shortest decimal of
such a number has few digits and a small exponent. The bounds are generous, since only the length of
the text matters here: it is far below that of a token.
-/

namespace PlatformLink.Decimal

namespace Binary64

/-- A mantissa and an exponent that rounding can lead to. -/
structure Bounded (x : Binary64) : Prop where
  mantissa : x.mantissa ≤ 2 ^ 64
  exponent : x.exponent ≤ greatestExponent

theorem bounded_zero (negative : Bool) : Bounded (zero negative) :=
  ⟨Nat.zero_le _, (by decide : leastExponent ≤ greatestExponent)⟩

/-! ## Rounding -/

theorem divideToNearest_le {num den k : Nat} (h : num < den * k) :
    divideToNearest num den ≤ k := by
  have hq : num / den < k := Nat.div_lt_of_lt_mul h
  unfold divideToNearest
  dsimp only
  split <;> omega

theorem divideToNearest_zero_le (num : Nat) : divideToNearest num 0 ≤ 1 := by
  unfold divideToNearest
  dsimp only
  split <;> simp

/-- Of two numbers the first is below the second times a power of two that its bits allow. -/
theorem lt_mul_two_pow {num den a b k : Nat} (hden : den ≠ 0)
    (h : num.log2 + 1 + a ≤ den.log2 + b + k) : num * 2 ^ a < den * 2 ^ b * 2 ^ k := by
  calc num * 2 ^ a < 2 ^ (num.log2 + 1) * 2 ^ a :=
        Nat.mul_lt_mul_of_pos_right Nat.lt_log2_self (Nat.two_pow_pos a)
    _ = 2 ^ (num.log2 + 1 + a) := (pow_add 2 _ _).symm
    _ ≤ 2 ^ (den.log2 + b + k) := Nat.pow_le_pow_right (by decide) h
    _ = 2 ^ den.log2 * 2 ^ b * 2 ^ k := by rw [pow_add, pow_add]
    _ ≤ den * 2 ^ b * 2 ^ k :=
        Nat.mul_le_mul_right _ (Nat.mul_le_mul_right _ (Nat.log2_self_le hden))

theorem scaleFor_ge (num den : Nat) :
    (num.log2 : Int) - den.log2 - 53 ≤ scaleFor num den := by
  unfold scaleFor
  dsimp only
  refine le_trans ?_ (le_max_right _ _)
  split <;> omega

theorem scaledToNearest_le (num den : Nat) :
    scaledToNearest num den (scaleFor num den) ≤ 2 ^ 54 := by
  have hscale := scaleFor_ge num den
  generalize scaleFor num den = e at hscale
  unfold scaledToNearest
  by_cases hden : den = 0
  · subst hden
    split
    · rw [Nat.zero_mul]
      exact (divideToNearest_zero_le _).trans (by decide)
    · exact (divideToNearest_zero_le _).trans (by decide)
  · split
    next h =>
      refine divideToNearest_le ?_
      have hlt : num * 2 ^ 0 < den * 2 ^ e.toNat * 2 ^ 54 := lt_mul_two_pow hden (by omega)
      rwa [pow_zero, Nat.mul_one] at hlt
    next h =>
      refine divideToNearest_le ?_
      have hlt : num * 2 ^ (-e).toNat < den * 2 ^ 0 * 2 ^ 54 := lt_mul_two_pow hden (by omega)
      rwa [pow_zero, Nat.mul_one] at hlt

theorem bounded_ofQuotient {num den : Nat} {x : Binary64} (h : ofQuotient num den = some x) :
    Bounded x := by
  have hkeep : ∀ y : Binary64, y.mantissa ≤ 2 ^ 64 →
      (if y.exponent ≤ greatestExponent then some y else none) = some x → Bounded x := by
    intro y hy hx
    split at hx
    next hexponent =>
      rw [← Option.some.inj hx]
      exact ⟨hy, hexponent⟩
    next => cases hx
  have hm := scaledToNearest_le num den
  unfold ofQuotient at h
  split at h
  next =>
    rw [← Option.some.inj h]
    exact bounded_zero false
  next =>
    dsimp only at h
    split at h
    next => exact hkeep _ (Nat.pow_le_pow_right (by decide) (by decide)) h
    next => exact hkeep _ (hm.trans (Nat.pow_le_pow_right (by decide) (by decide))) h

theorem bounded_divided {x : Binary64} (h : Bounded x) (y : Binary64) :
    Bounded ((divMagnitude x y).getD x) := by
  cases hd : divMagnitude x y with
  | none => exact h
  | some z => exact bounded_ofQuotient hd

theorem bounded_dividedByTenPower {x : Binary64} (h : Bounded x) (k : Nat) :
    Bounded (x.dividedByTenPower k) := by
  fun_induction dividedByTenPower x k with
  | case1 x k hk => exact bounded_divided h _
  | case2 x k hk hzero => exact h
  | case3 x k hk hzero ih => exact ih (bounded_divided h _)

/-- What a decimal is read as. -/
theorem bounded_ofDecimal {negative : Bool} {significand : Nat} {exponent : Int} {x : Binary64}
    (h : ofDecimal negative significand exponent = some x) : Bounded x := by
  have hkeep : ∀ y : Binary64, Bounded y → some { y with negative := negative } = some x →
      Bounded x := by
    intro y hy hx
    rw [← Option.some.inj hx]
    exact ⟨hy.mantissa, hy.exponent⟩
  unfold ofDecimal at h
  obtain ⟨y, hy, h⟩ := Option.bind_eq_some_iff.mp h
  dsimp only at h
  split at h
  next => exact hkeep _ (bounded_dividedByTenPower (bounded_ofQuotient hy) _) h
  next =>
    split at h
    next =>
      obtain ⟨z, hz, h⟩ := Option.bind_eq_some_iff.mp h
      exact hkeep z (bounded_ofQuotient hz) h
    next =>
      split at h
      next => exact hkeep y (bounded_ofQuotient hy) h
      next => cases h

end Binary64

/-! ## The shortest decimal -/

theorem magnitudeFrom_spec (num den fuel k : Nat) (h : num < den * 10 ^ (k + fuel)) :
    num < den * 10 ^ magnitudeFrom num den fuel k ∧ magnitudeFrom num den fuel k ≤ k + fuel := by
  induction fuel generalizing k with
  | zero => exact ⟨h, le_rfl⟩
  | succ fuel ih =>
    unfold magnitudeFrom
    split
    next hk => exact ⟨hk, by omega⟩
    next =>
      rw [← Nat.add_assoc, Nat.add_right_comm] at h
      obtain ⟨hnum, hle⟩ := ih (k + 1) h
      exact ⟨hnum, by omega⟩

theorem leadingZerosFrom_spec (num den fuel j : Nat) (h : num * 10 ^ j < den) :
    num * 10 ^ leadingZerosFrom num den fuel j < den ∧
      leadingZerosFrom num den fuel j ≤ j + fuel := by
  induction fuel generalizing j with
  | zero => exact ⟨h, le_rfl⟩
  | succ fuel ih =>
    unfold leadingZerosFrom
    split
    next hj => exact ⟨h, by omega⟩
    next hj =>
      obtain ⟨hnum, hle⟩ := ih (j + 1) (Nat.lt_of_not_le hj)
      exact ⟨hnum, by omega⟩

theorem two_pow_mul_lt {a b c : Nat} (h : a + b ≤ 3 * c) (hc : c ≠ 0) :
    2 ^ a * 2 ^ b < 10 ^ c := by
  calc 2 ^ a * 2 ^ b = 2 ^ (a + b) := (pow_add 2 a b).symm
    _ ≤ 2 ^ (3 * c) := Nat.pow_le_pow_right (by decide) h
    _ = 8 ^ c := pow_mul 2 3 c
    _ < 10 ^ c := Nat.pow_lt_pow_left (by decide) hc

/-- How far the counting of powers of ten goes. -/
def mostPowers : Nat := 400

namespace Interval

/-- A value below the greatest power of ten that is counted to. -/
def InRange (i : Interval) : Prop :=
  i.value < i.den * 10 ^ mostPowers

theorem inRange_of {x : Binary64} (h : x.Bounded) : (Interval.of x).InRange := by
  have hm : 4 * x.mantissa ≤ 2 ^ 66 := by
    have hmantissa := h.mantissa
    omega
  have hq : (x.exponent - 2).toNat ≤ 969 := by
    have hexponent := h.exponent
    rw [Binary64.greatestExponent] at hexponent
    omega
  unfold InRange of
  dsimp only
  split
  next =>
    rw [Nat.one_mul]
    calc 4 * x.mantissa * 2 ^ (x.exponent - 2).toNat
        ≤ 2 ^ 66 * 2 ^ (x.exponent - 2).toNat := Nat.mul_le_mul_right _ hm
      _ < 10 ^ mostPowers := two_pow_mul_lt (by rw [mostPowers]; omega) (by decide)
  next =>
    rw [Nat.mul_one]
    calc 4 * x.mantissa ≤ 2 ^ 66 * 2 ^ 0 := hm
      _ < 10 ^ mostPowers := two_pow_mul_lt (by decide) (by decide)
      _ ≤ 2 ^ (-(x.exponent - 2)).toNat * 10 ^ mostPowers :=
          Nat.le_mul_of_pos_left _ (Nat.two_pow_pos _)

/-- The value is below the power of ten of its magnitude. -/
theorem magnitude_spec {i : Interval} (h : i.InRange) :
    i.value * 10 ^ (-i.magnitude).toNat < i.den * 10 ^ i.magnitude.toNat ∧
      i.magnitude.natAbs ≤ mostPowers := by
  unfold magnitude
  split
  next =>
    have hrange : ∀ n, n = mostPowers → i.value < i.den * 10 ^ (0 + n) := by
      rintro n rfl
      rw [Nat.zero_add]
      exact h
    obtain ⟨hlt, hle⟩ := magnitudeFrom_spec i.value i.den 400 0 (hrange 400 rfl)
    generalize magnitudeFrom i.value i.den 400 0 = k at hlt hle
    refine ⟨?_, by rw [mostPowers]; omega⟩
    rw [show (-(k : Int)).toNat = 0 by omega, pow_zero, Nat.mul_one, Int.toNat_natCast]
    exact hlt
  next hden =>
    have hstart : i.value * 10 ^ 0 < i.den := by
      rw [pow_zero, Nat.mul_one]
      exact Nat.lt_of_not_le hden
    obtain ⟨hlt, hle⟩ := leadingZerosFrom_spec i.value i.den 400 0 hstart
    generalize leadingZerosFrom i.value i.den 400 0 = j at hlt hle
    refine ⟨?_, by rw [mostPowers]; omega⟩
    rw [show (-(j : Int)).toNat = 0 by omega, pow_zero, Nat.mul_one, Int.neg_neg,
      Int.toNat_natCast]
    exact hlt

/-- On a grid of so many digits the value lies below the power of ten that has one digit more. -/
theorem scaled_lt {i : Interval} (h : i.InRange) (count : Nat) :
    i.value * 10 ^ (-(i.magnitude - count)).toNat <
      i.den * 10 ^ (i.magnitude - count).toNat * 10 ^ count := by
  obtain ⟨hlt, -⟩ := magnitude_spec h
  generalize i.magnitude = m at hlt
  obtain ⟨s, hup, hdown⟩ : ∃ s, (-(m - count)).toNat = (-m).toNat + s ∧
      m.toNat + s = (m - count).toNat + count :=
    ⟨(-(m - count)).toNat - (-m).toNat, by omega, by omega⟩
  calc i.value * 10 ^ (-(m - count)).toNat
      = i.value * 10 ^ (-m).toNat * 10 ^ s := by rw [hup, pow_add, Nat.mul_assoc]
    _ < i.den * 10 ^ m.toNat * 10 ^ s := Nat.mul_lt_mul_of_pos_right hlt (by positivity)
    _ = i.den * 10 ^ (m - count).toNat * 10 ^ count := by
        rw [Nat.mul_assoc, Nat.mul_assoc, ← pow_add, ← pow_add, hdown]

end Interval

/-- A decimal of few digits and with a small exponent. -/
structure Digits.Short (d : Digits) : Prop where
  digits : d.digits ≤ 10 ^ 17
  exponent : d.exponent.natAbs ≤ 500

theorem Interval.bounds_onGrid {i : Interval} (h : i.InRange) {count : Nat} {d : Digits}
    (hd : i.onGrid count = some d) :
    d.digits ≤ 10 ^ count ∧ d.exponent.natAbs ≤ mostPowers + count := by
  have hscaled := scaled_lt h count
  have hmagnitude := (magnitude_spec h).2
  have hchoice : ∀ (c : Nat) (lower upper : Bool), c < 10 ^ count →
      (if lower then some (Digits.mk c (i.magnitude - count))
        else if upper then some ⟨c + 1, i.magnitude - count⟩ else none) = some d →
      d.digits ≤ 10 ^ count ∧ d.exponent.natAbs ≤ mostPowers + count := by
    intro c lower upper hc hsome
    cases lower with
    | true =>
      rw [← Option.some.inj hsome]
      exact ⟨hc.le, by dsimp only; omega⟩
    | false =>
      cases upper with
      | true =>
        rw [← Option.some.inj hsome]
        exact ⟨hc, by dsimp only; omega⟩
      | false => cases hsome
  unfold onGrid at hd
  refine hchoice _ _ _ ?_ hd
  dsimp only
  refine Nat.div_lt_of_lt_mul ?_
  split
  next hg =>
    rw [show (-(i.magnitude - count)).toNat = 0 by omega, pow_zero] at hscaled
    exact hscaled
  next hg =>
    rw [show (i.magnitude - count).toNat = 0 by omega, pow_zero, Nat.mul_one] at hscaled
    exact hscaled

theorem Digits.short_stripped (fuel : Nat) {d : Digits} {bound : Nat}
    (hd : d.digits ≤ 10 ^ 17 ∧ d.exponent.natAbs + fuel ≤ bound) :
    (d.stripped fuel).digits ≤ 10 ^ 17 ∧ (d.stripped fuel).exponent.natAbs ≤ bound := by
  induction fuel generalizing d with
  | zero => exact ⟨hd.1, hd.2⟩
  | succ fuel ih =>
    unfold stripped
    split
    next =>
      refine ih ⟨(Nat.div_le_self _ _).trans hd.1, ?_⟩
      have hexponent := hd.2
      dsimp only
      omega
    next => exact ⟨hd.1, by omega⟩

/-- The shortest decimal of a number that is read has at most eighteen digits. -/
theorem short_shortest {x : Binary64} (h : x.Bounded) : (shortest x).Short := by
  have hrange := Interval.inRange_of h
  have hfound : ((List.range 17).findSome? fun n => (Interval.of x).onGrid (n + 1)).getD ⟨0, 0⟩ |>
      fun d => d.digits ≤ 10 ^ 17 ∧ d.exponent.natAbs + 20 ≤ 500 := by
    cases hsome : (List.range 17).findSome? fun n => (Interval.of x).onGrid (n + 1) with
    | none => exact ⟨by decide, by decide⟩
    | some d =>
      obtain ⟨n, hn, hgrid⟩ := List.exists_of_findSome?_eq_some hsome
      have hcount : n + 1 ≤ 17 := List.mem_range.mp hn
      obtain ⟨hdigits, hexponent⟩ := Interval.bounds_onGrid hrange hgrid
      rw [mostPowers] at hexponent
      refine ⟨hdigits.trans (Nat.pow_le_pow_right (by decide) hcount), ?_⟩
      rw [Option.getD_some]
      omega
  obtain ⟨hdigits, hexponent⟩ := Digits.short_stripped 20 hfound
  exact ⟨hdigits, hexponent⟩

/-! ## Texts -/

theorem length_toString_le {n k : Nat} (hk : 0 < k) (h : n < 10 ^ k) :
    (toString n).length ≤ k := by
  exact (Nat.length_repr_le_iff hk).mpr h

theorem Digits.length_text_le {d : Digits} (h : d.Short) : d.text.length ≤ 26 := by
  have hdigits : (toString d.digits).length ≤ 18 :=
    length_toString_le (by decide) (Nat.lt_of_le_of_lt h.digits (by decide))
  have hexponent := h.exponent
  unfold text
  dsimp only
  generalize toString d.digits = ds at hdigits
  have hlength : ds.toList.length = ds.length := String.length_toList
  split
  next =>
    simp only [String.length_append, String.length_ofList, List.length_replicate,
      (by decide : ".0".length = 2)]
    omega
  next =>
    split
    next =>
      simp only [String.length_append, String.length_ofList, List.length_take, List.length_drop,
        (by decide : ".".length = 1)]
      omega
    next =>
      split
      next =>
        simp only [String.length_append, String.length_ofList, List.length_replicate,
          (by decide : "0.".length = 2)]
        omega
      next =>
        have hwritten : (toString ((ds.length : Int) + d.exponent - 1).natAbs).length ≤ 3 :=
          length_toString_le (by decide) (by omega)
        have hpoint : (if ds.length = 1 then "" else
            "." ++ String.ofList (ds.toList.drop 1)).length ≤ 18 := by
          split
          next => exact Nat.zero_le _
          next =>
            simp only [String.length_append, String.length_ofList, List.length_drop,
              (by decide : ".".length = 1)]
            omega
        have hsign :
            (if (ds.length : Int) + d.exponent - 1 < 0 then "e-" else "e+").length = 2 := by
          split <;> decide
        simp only [String.length_append, String.length_ofList, List.length_take, hsign]
        omega

theorem Binary64.length_text_lt {x : Binary64} (h : x.Bounded) : x.text.length < 32 := by
  have hdigits := Digits.length_text_le (short_shortest h)
  have hsign : (if x.negative then "-" else "").length ≤ 1 := by
    split <;> decide
  have hnumber : (if x.isZero then "0.0" else (shortest x).text).length ≤ 26 := by
    split
    next => decide
    next => exact hdigits
  rw [text, String.length_append]
  omega

end PlatformLink.Decimal
