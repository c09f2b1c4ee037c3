/-!
# Whole numbers in text

An optional plus sign and decimal digits, any number of them zeros at the front, for a number of 64
bits.
-/

namespace PlatformLink.Text

def digitValue? (c : Char) : Option Nat :=
  if '0' ≤ c ∧ c ≤ '9' then some (c.toNat - '0'.toNat) else none

/-- The number of digits that follow those of `n`. -/
def digitsFrom (n : Nat) : List Char → Option Nat
  | [] => some n
  | c :: cs => (digitValue? c).bind fun d => digitsFrom (n * 10 + d) cs

/-- The number of at least one digit, if it fits. -/
def uint64OfDigits (cs : List Char) : Option UInt64 :=
  if cs.isEmpty then none
  else (digitsFrom 0 cs).bind fun n => if n < UInt64.size then some (UInt64.ofNat n) else none

def uint64? (s : String) : Option UInt64 :=
  match s.toList with
  | '+' :: cs => uint64OfDigits cs
  | cs => uint64OfDigits cs

end PlatformLink.Text
