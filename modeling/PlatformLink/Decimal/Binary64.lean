/-!
# Binary floating point numbers

Finite numbers with 53 significant bits, as a sign, a mantissa and a power of two. A quotient of
natural numbers is rounded to the nearest such number, a tie to the even mantissa.
-/

namespace PlatformLink.Decimal

/-- The number `± mantissa * 2 ^ exponent`. -/
structure Binary64 where
  negative : Bool
  mantissa : Nat
  exponent : Int
  deriving Repr, DecidableEq, Inhabited

namespace Binary64

def leastExponent : Int := -1074

def greatestExponent : Int := 971

def zero (negative : Bool) : Binary64 :=
  ⟨negative, 0, leastExponent⟩

def isZero (x : Binary64) : Bool :=
  x.mantissa == 0

def neg (x : Binary64) : Binary64 :=
  { x with negative := !x.negative }

/-- A quotient to the nearest whole number, a tie to the even one. -/
def divideToNearest (num den : Nat) : Nat :=
  let q := num / den
  let r := num % den
  if den < 2 * r || (den == 2 * r && q % 2 == 1) then q + 1 else q

/-- The quotient `num / (den * 2 ^ e)` to the nearest whole number. -/
def scaledToNearest (num den : Nat) (e : Int) : Nat :=
  if 0 ≤ e then divideToNearest num (den * Nat.pow 2 e.toNat)
  else divideToNearest (num * Nat.pow 2 (-e).toNat) den

/-- The power of two at which `num / den` has 53 bits before the point, or the least power there
is. -/
def scaleFor (num den : Nat) : Int :=
  let near : Int := (Nat.log2 num : Int) - (Nat.log2 den : Int) - 52
  let full : Bool :=
    if 0 ≤ near then den * Nat.pow 2 near.toNat * Nat.pow 2 52 ≤ num
    else den * Nat.pow 2 52 ≤ num * Nat.pow 2 (-near).toNat
  max leastExponent (if full then near else near - 1)

/-- The number nearest to `num / den`, or `none` past the greatest. -/
def ofQuotient (num den : Nat) : Option Binary64 :=
  if num = 0 then some (zero false) else
    let e := scaleFor num den
    let m := scaledToNearest num den e
    let x : Binary64 := if m = Nat.pow 2 53 then ⟨false, Nat.pow 2 52, e + 1⟩ else ⟨false, m, e⟩
    if x.exponent ≤ greatestExponent then some x else none

/-- The magnitude as a quotient of natural numbers. -/
def toQuotient (x : Binary64) : Nat × Nat :=
  if 0 ≤ x.exponent then (x.mantissa * Nat.pow 2 x.exponent.toNat, 1)
  else (x.mantissa, Nat.pow 2 (-x.exponent).toNat)

def mulMagnitude (x y : Binary64) : Option Binary64 :=
  ofQuotient (x.toQuotient.1 * y.toQuotient.1) (x.toQuotient.2 * y.toQuotient.2)

def divMagnitude (x y : Binary64) : Option Binary64 :=
  ofQuotient (x.toQuotient.1 * y.toQuotient.2) (x.toQuotient.2 * y.toQuotient.1)

/-- The number nearest to a power of ten that is in range. -/
def tenPower (k : Nat) : Binary64 :=
  (ofQuotient (Nat.pow 10 k) 1).getD (zero false)

/-- The largest power of ten by which a number is scaled in one step. -/
def greatestTenPower : Nat := 308

/-- Divides by a power of ten, in steps of at most `greatestTenPower`, each rounded. -/
def dividedByTenPower (x : Binary64) (k : Nat) : Binary64 :=
  if k ≤ greatestTenPower then (divMagnitude x (tenPower k)).getD x
  else if x.isZero then x
  else dividedByTenPower ((divMagnitude x (tenPower greatestTenPower)).getD x)
    (k - greatestTenPower)
termination_by k
decreasing_by simp only [greatestTenPower] at *; omega

/-- The number written as `significand` and a power of ten: the significand is rounded, and then
its product or quotient by the power. `none` past the greatest number. -/
def ofDecimal (negative : Bool) (significand : Nat) (exponent : Int) : Option Binary64 := do
  let x ← ofQuotient significand 1
  let y ←
    if exponent < 0 then some (x.dividedByTenPower exponent.natAbs)
    else if exponent.natAbs ≤ greatestTenPower then mulMagnitude x (tenPower exponent.natAbs)
    else if x.isZero then some x
    else none
  return { y with negative := negative }

end Binary64

end PlatformLink.Decimal
