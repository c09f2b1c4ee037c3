/-!
# Durations

Lengths of time in whole nanoseconds, and their text in the largest unit of which there is a whole
one.
-/

namespace PlatformLink

structure Duration where
  nanoseconds : Nat
  deriving Repr, DecidableEq, Inhabited

namespace Duration

def perSecond : Nat := 1000000000

def ofSeconds (n : Nat) : Duration :=
  ⟨n * perSecond⟩

def ofMilliseconds (n : Nat) : Duration :=
  ⟨n * 1000000⟩

def seconds (d : Duration) : Nat :=
  d.nanoseconds / perSecond

theorem seconds_ofSeconds (n : Nat) : (ofSeconds n).seconds = n := by
  simp [seconds, ofSeconds, perSecond]

/-- The digits of a fraction of `10 ^ places`, without the zeros at its end. -/
def fractionText (places part : Nat) : String :=
  let ds := (toString part).toList
  let padded := List.replicate (places - ds.length) '0' ++ ds
  String.ofList (padded.reverse.dropWhile (· == '0')).reverse

/-- A number of units of `10 ^ places` nanoseconds. -/
def inUnit (places : Nat) (unit : String) (n : Nat) : String :=
  let fraction := fractionText places (n % Nat.pow 10 places)
  toString (n / Nat.pow 10 places) ++ (if fraction.isEmpty then "" else "." ++ fraction) ++ unit

def text (d : Duration) : String :=
  let n := d.nanoseconds
  if Nat.pow 10 9 ≤ n then inUnit 9 "s" n
  else if Nat.pow 10 6 ≤ n then inUnit 6 "ms" n
  else if Nat.pow 10 3 ≤ n then inUnit 3 "µs" n
  else inUnit 0 "ns" n

end Duration

end PlatformLink
