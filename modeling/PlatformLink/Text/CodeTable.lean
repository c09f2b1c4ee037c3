import PlatformLink.Text.Split

/-!
# Tables of character codes

Data of the Unicode standard is kept as text: entries between blanks, with codes in hexadecimal.
`A` is one code, `A-B` are the codes from `A` to `B`, and `A/B` is every second one of them. In a
map `A-B>C` says that the codes stand for those from `C` on, each for the one at its place, and
`A>B,C` that one code stands for several.
-/

namespace PlatformLink.Text

/-- Codes at equal distances. -/
structure CodeRun where
  first : Nat
  last : Nat
  step : Nat
  deriving Repr, DecidableEq

abbrev CodeSet := List CodeRun

/-- What some codes stand for; the targets are those of the first code. -/
structure CodeEntry where
  codes : CodeRun
  targets : List Nat
  deriving Repr, DecidableEq

abbrev CodeMap := List CodeEntry

/-- The words between blanks and line ends. -/
def tableWords (text : String) : List (List Char) :=
  (splitOn ' ' (text.toList.map fun c => if c = '\n' then ' ' else c)).filter fun w => !w.isEmpty

def hexDigitOf (c : Char) : Nat :=
  if c.isDigit then c.toNat - '0'.toNat else c.toNat - 'A'.toNat + 10

/-- The number that hexadecimal digits write. -/
def hexNumber (cs : List Char) : Nat :=
  cs.foldl (fun n c => n * 16 + hexDigitOf c) 0

namespace CodeRun

def contains (r : CodeRun) (n : Nat) : Bool :=
  r.first ≤ n && n ≤ r.last && (n - r.first) % r.step == 0

def ofWord (w : List Char) : CodeRun :=
  match splitOn '-' w, splitOn '/' w with
  | [a, b], _ => ⟨hexNumber a, hexNumber b, 1⟩
  | _, [a, b] => ⟨hexNumber a, hexNumber b, 2⟩
  | _, _ => ⟨hexNumber w, hexNumber w, 1⟩

end CodeRun

namespace CodeSet

def ofText (text : String) : CodeSet :=
  (tableWords text).map CodeRun.ofWord

def contains (s : CodeSet) (n : Nat) : Bool :=
  s.any (CodeRun.contains · n)

end CodeSet

namespace CodeMap

def ofText (text : String) : CodeMap :=
  (tableWords text).filterMap fun w =>
    match splitOn '>' w with
    | [codes, targets] => some ⟨.ofWord codes, (splitOn ',' targets).map hexNumber⟩
    | _ => none

/-- The codes for which a code stands. -/
def find? (m : CodeMap) (n : Nat) : Option (List Nat) :=
  (List.find? (fun e => e.codes.contains n) m).map fun e =>
    e.targets.map (· + (n - e.codes.first))

end CodeMap

end PlatformLink.Text
