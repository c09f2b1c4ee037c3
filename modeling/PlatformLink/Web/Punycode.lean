/-!
# Punycode

A label with characters beyond ASCII written in ASCII letters, digits and hyphens. The
characters of ASCII come first, in their order; after a hyphen follow the others by growing codes,
each as the number of places that are skipped to reach it. The numbers have digits to base 36 whose
weights adapt to the numbers before.
-/

namespace PlatformLink.Web.Punycode

def base : Nat := 36

/-- The first code that is not ASCII. -/
def firstCode : Nat := 0x80

/-- The threshold of the digit at place `k`: a digit below it is the last of its number. -/
def threshold (bias k : Nat) : Nat :=
  min 26 (max 1 (base * (k + 1) - bias))

theorem one_le_threshold (bias k : Nat) : 1 ≤ threshold bias k := by
  simp only [threshold]; omega

/-- Scales a number down until it is small, and counts the steps. -/
def scaleDown (n : Nat) : Nat × Nat :=
  if 455 < n then
    let (n, steps) := scaleDown (n / 35)
    (n, steps + 1)
  else (n, 0)
termination_by n
decreasing_by omega

/-- The bias after a number, of which `count` characters are written by now. -/
def adapt (n count : Nat) (first : Bool) : Nat :=
  let n := if first then n / 700 else n / 2
  let (n, steps) := scaleDown (n + n / count)
  base * steps + base * n / (n + 38)

def digitChar (d : Nat) : Char :=
  if d < 26 then Char.ofNat ('a'.toNat + d) else Char.ofNat ('0'.toNat + (d - 26))

def digitValue? (c : Char) : Option Nat :=
  if 'a' ≤ c ∧ c ≤ 'z' then some (c.toNat - 'a'.toNat)
  else if '0' ≤ c ∧ c ≤ '9' then some (c.toNat - '0'.toNat + 26)
  else none

/-- The digits of a number from place `k` on. -/
def writeNumber (bias k n : Nat) : List Char :=
  let t := threshold bias k
  if _h : n < t then [digitChar n]
  else digitChar (t + (n - t) % (base - t)) :: writeNumber bias (k + 1) ((n - t) / (base - t))
termination_by n
decreasing_by
  have := one_le_threshold bias k
  exact Nat.lt_of_le_of_lt (Nat.div_le_self _ _) (by omega)

/-- A label that is being written: how many characters are written, the bias, the places skipped
since the last one, and the digits. -/
structure Writing where
  count : Nat
  bias : Nat
  skipped : Nat
  digits : List Char

/-- Passes over a character of the label while those of one code are written. -/
def Writing.pass (plain code : Nat) (w : Writing) (c : Char) : Writing :=
  if c.toNat < code then { w with skipped := w.skipped + 1 }
  else if c.toNat = code then
    { count := w.count + 1
      bias := adapt w.skipped (w.count + 1) (w.count == plain)
      skipped := 0
      digits := w.digits ++ writeNumber w.bias 0 w.skipped }
  else w

/-- Writes the characters of growing codes, the first of which is at least `least`. -/
def Writing.passAll (label : List Char) (plain : Nat) : (least : Nat) → List Nat → Writing → Writing
  | _, [], w => w
  | least, code :: codes, w =>
    let w := { w with skipped := w.skipped + (code - least) * (w.count + 1) }
    let w := label.foldl (Writing.pass plain code) w
    passAll label plain (code + 1) codes { w with skipped := w.skipped + 1 }

/-- The codes beyond ASCII, each once, growing. -/
def codesBeyond (label : List Char) : List Nat :=
  (((label.map Char.toNat).filter (firstCode ≤ ·)).mergeSort (· ≤ ·)).eraseDups

def encode (label : List Char) : List Char :=
  let plain := label.filter fun c => c.toNat < firstCode
  let n := plain.length
  let w := Writing.passAll label n firstCode (codesBeyond label) ⟨n, 72, 0, []⟩
  (if plain.isEmpty then [] else plain ++ ['-']) ++ w.digits

/-- A label that is being read: its characters, the last code and its place, the bias, and the
number that is being read with the weight of its next digit at place `k`. -/
structure Reading where
  found : List Char
  code : Nat
  place : Nat
  bias : Nat
  number : Nat
  weight : Nat
  k : Nat

/-- Puts in the character to which a number leads. -/
def Reading.insert (r : Reading) : Option Reading :=
  let count := r.found.length + 1
  let i := r.place + r.number
  let code := r.code + i / count
  if h : code.isValidChar then
    some {
      found := r.found.take (i % count) ++ [Char.ofNatAux code h] ++ r.found.drop (i % count)
      code := code
      place := i % count + 1
      bias := adapt r.number count (r.place == 0)
      number := 0
      weight := 1
      k := 0 }
  else none

/-- Reads one digit. -/
def Reading.digit (r : Reading) (d : Nat) : Option Reading :=
  let t := threshold r.bias r.k
  let r := { r with number := r.number + d * r.weight }
  if d < t then r.insert else some { r with weight := r.weight * (base - t), k := r.k + 1 }

/-- Reads digits; a number may not end before its last digit. -/
def Reading.readAll : Reading → List Char → Option (List Char)
  | r, [] => if r.k = 0 then some r.found else none
  | r, c :: cs => do (← r.digit (← digitValue? c)).readAll cs

/-- The characters before the last hyphen, and those after it. A hyphen with nothing before it ends
nothing. -/
def splitAtHyphen (cs : List Char) : List Char × List Char :=
  let after := (cs.reverse.takeWhile (· != '-')).reverse
  match cs.take (cs.length - after.length - 1) with
  | [] => ([], cs)
  | plain => (plain, after)

/-- The label that is written so. -/
def decode? (cs : List Char) : Option (List Char) :=
  let (plain, digits) := splitAtHyphen cs
  Reading.readAll ⟨plain, firstCode, 0, 72, 0, 1, 0⟩ digits

end PlatformLink.Web.Punycode
