import PlatformLink.Decimal.Binary64

/-!
# The shortest decimal of a binary number

The fewest digits that read back as the number, and of those the nearest to it. On the grid of each
digit count only the two neighbours of the number can be the answer.
-/

namespace PlatformLink.Decimal

/-- A positive decimal `digits * 10 ^ exponent`. -/
structure Digits where
  digits : Nat
  exponent : Int
  deriving Repr, DecidableEq

/-- Without the zeros at the end; `fuel` bounds their number. -/
def Digits.stripped : Nat → Digits → Digits
  | 0, d => d
  | fuel + 1, d =>
    if d.digits % 10 = 0 ∧ d.digits ≠ 0 then stripped fuel ⟨d.digits / 10, d.exponent + 1⟩ else d

/-- Numbers over one denominator: a value and the ends of the interval of what rounds to it. -/
structure Interval where
  low : Nat
  value : Nat
  high : Nat
  den : Nat
  closed : Bool

/-- What rounds to a number is closer to it than to its neighbours; below a power of two the
neighbour is at half the distance. The ends belong to an even mantissa. -/
def Interval.of (x : Binary64) : Interval :=
  let below := if x.mantissa = Nat.pow 2 52 ∧ Binary64.leastExponent < x.exponent then 1 else 2
  let q := x.exponent - 2
  let unit := if 0 ≤ q then Nat.pow 2 q.toNat else 1
  let den := if 0 ≤ q then 1 else Nat.pow 2 (-q).toNat
  ⟨(4 * x.mantissa - below) * unit, 4 * x.mantissa * unit, (4 * x.mantissa + 2) * unit, den,
    x.mantissa % 2 == 0⟩

def Interval.contains (i : Interval) (n : Nat) : Bool :=
  if i.closed then i.low ≤ n && n ≤ i.high else i.low < n && n < i.high

/-- The least `k` with `value < den * 10 ^ k`, counted up from `k`; negative powers are found by
scaling the value. -/
def magnitudeFrom (num den : Nat) : Nat → Nat → Nat
  | 0, k => k
  | fuel + 1, k => if num < den * Nat.pow 10 k then k else magnitudeFrom num den fuel (k + 1)

/-- How many zeros follow the point before the first digit of a number below one. -/
def leadingZerosFrom (num den : Nat) : Nat → Nat → Nat
  | 0, j => j
  | fuel + 1, j =>
    if den ≤ num * Nat.pow 10 (j + 1) then j else leadingZerosFrom num den fuel (j + 1)

/-- The power of ten just above a positive number. -/
def Interval.magnitude (i : Interval) : Int :=
  if i.den ≤ i.value then magnitudeFrom i.value i.den 400 0
  else -(leadingZerosFrom i.value i.den 400 0 : Int)

/-- The nearer of the number's two neighbours on the grid of `count` digits, if it reads back. -/
def Interval.onGrid (i : Interval) (count : Nat) : Option Digits :=
  let g := i.magnitude - count
  let up := if 0 ≤ g then 1 else Nat.pow 10 (-g).toNat
  let step := if 0 ≤ g then i.den * Nat.pow 10 g.toNat else i.den
  let scaled : Interval := ⟨i.low * up, i.value * up, i.high * up, step, i.closed⟩
  let c := scaled.value / step
  let lower := scaled.contains (c * step)
  let upper := scaled.contains ((c + 1) * step)
  let downward := scaled.value - c * step
  let upward := (c + 1) * step - scaled.value
  let nearerDown := downward < upward || (downward == upward && c % 2 == 0)
  if lower && (nearerDown || !upper) then some ⟨c, g⟩
  else if upper then some ⟨c + 1, g⟩
  else none

/-- The shortest decimal of a number that is not zero; seventeen digits always suffice. -/
def shortest (x : Binary64) : Digits :=
  let i := Interval.of x
  (((List.range 17).findSome? fun n => i.onGrid (n + 1)).getD ⟨0, 0⟩).stripped 20

/-- A number as text. A decimal exponent from -5 to 15 is written with a point and at least one
digit on each side of it, any other with one digit before the point and a signed exponent. -/
def Digits.text (d : Digits) : String :=
  let ds := toString d.digits
  let point : Int := ds.length + d.exponent
  if 0 ≤ d.exponent ∧ point ≤ 16 then
    ds ++ String.ofList (List.replicate d.exponent.toNat '0') ++ ".0"
  else if 0 < point ∧ point ≤ 16 then
    String.ofList (ds.toList.take point.toNat) ++ "." ++ String.ofList (ds.toList.drop point.toNat)
  else if -5 < point ∧ point ≤ 0 then
    "0." ++ String.ofList (List.replicate (-point).toNat '0') ++ ds
  else
    let e := point - 1
    String.ofList (ds.toList.take 1) ++
      (if ds.length = 1 then "" else "." ++ String.ofList (ds.toList.drop 1)) ++
      (if e < 0 then "e-" else "e+") ++ toString e.natAbs

def Binary64.text (x : Binary64) : String :=
  (if x.negative then "-" else "") ++ (if x.isZero then "0.0" else (shortest x).text)

end PlatformLink.Decimal
