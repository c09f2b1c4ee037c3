import PlatformLink.Json.Error
import PlatformLink.Text.Utf8

/-!
# Reading JSON from octets

The parts from which every reader of JSON is built: blanks, words, numbers, strings, and the commas
and brackets of arrays and objects. A reader gives what it read and the octets it leaves. The text
is read from left to right and the first fault wins.

`readValue` reads a value of any kind and `skipValue` passes over one. Passing over is more lenient:
it looks neither at the range of numbers nor at the characters of strings, and nesting is unbounded.
-/

namespace PlatformLink.Json

open Text (Octets)

abbrev Decoded := Except DecodeError

def fail {α : Type} (m : Malformation) : Decoded α :=
  .error (.malformed m)

def isBlankOctet (b : UInt8) : Bool :=
  b == 0x20 || b == 0x0A || b == 0x0D || b == 0x09

def skipBlanks (bs : Octets) : Octets :=
  bs.dropWhile isBlankOctet

/-- Reads the rest of a word of which the first letter was seen. -/
def readWord : List UInt8 → Octets → Decoded Octets
  | [], bs => .ok bs
  | _ :: _, [] => fail .endInValue
  | w :: ws, b :: rest => if w = b then readWord ws rest else fail .wordExpected

def afterN : List UInt8 := [0x75, 0x6C, 0x6C]

def afterT : List UInt8 := [0x72, 0x75, 0x65]

def afterF : List UInt8 := [0x61, 0x6C, 0x73, 0x65]

/-! ## Numbers -/

def isDigit (b : UInt8) : Bool :=
  0x30 ≤ b && b ≤ 0x39

def digitValue (b : UInt8) : Nat :=
  b.toNat - 0x30

/-- The digits at the front, and what follows them. -/
def digitRun (bs : Octets) : List Nat × Octets :=
  ((bs.takeWhile isDigit).map digitValue, bs.dropWhile isDigit)

/-- Appends digits to a significand as long as it stays in 64 bits, and gives the digits left. -/
def absorb : Nat → List Nat → Nat × List Nat
  | s, [] => (s, [])
  | s, d :: ds =>
    if greatestWhole < (s * 10 + d : Nat) then (s, d :: ds) else absorb (s * 10 + d) ds

/-- The value of a row of digits. -/
def digitsValue (ds : List Nat) : Nat :=
  ds.foldl (fun n d => n * 10 + d) 0

/-- The greatest exponent that is looked at; past it a number is out of range or zero. -/
def greatestWrittenExponent : Nat := 2147483647

def isExponentMark (b : UInt8) : Bool :=
  b == 0x65 || b == 0x45

def real (negative : Bool) (significand : Nat) (exponent : Int) (rest : Octets) :
    Decoded (Number × Octets) :=
  match Decimal.Binary64.ofDecimal negative significand exponent with
  | some x => .ok (.real x, rest)
  | none => fail .numberTooLarge

/-- Reads an exponent after its mark. -/
def readExponent (negative : Bool) (significand : Nat) (exponent : Int) (bs : Octets) :
    Decoded (Number × Octets) :=
  let (down, bs) : Bool × Octets := match bs with
    | b :: rest =>
      if b = 0x2B then (false, rest) else if b = 0x2D then (true, rest) else (false, bs)
    | [] => (false, [])
  match bs, digitRun bs with
  | [], _ => fail .endInValue
  | _ :: _, ([], _) => fail .numberInvalid
  | _ :: _, (ds, rest) =>
    let e := digitsValue ds
    if greatestWrittenExponent < e then
      if significand ≠ 0 ∧ !down then fail .numberTooLarge
      else .ok (.real (.zero negative), rest)
    else real negative significand (if down then exponent - e else exponent + e) rest

/-- Reads a fraction after its point. -/
def readFraction (negative : Bool) (significand : Nat) (exponent : Int) (bs : Octets) :
    Decoded (Number × Octets) :=
  match digitRun bs with
  | ([], []) => fail .endInValue
  | ([], _ :: _) => fail .numberInvalid
  | (ds, rest) =>
    let (s, left) := absorb significand ds
    let exponent := exponent - (ds.length - left.length : Nat)
    match rest with
    | b :: more =>
      if isExponentMark b then readExponent negative s exponent more
      else real negative s exponent rest
    | [] => real negative s exponent []

/-- A number of a significand without fraction or exponent. Zero with a minus is no whole number. -/
def wholeOrReal (negative : Bool) (significand : Nat) (rest : Octets) : Decoded (Number × Octets) :=
  if negative then
    if significand = 0 then real true 0 0 rest
    else match Number.ofInt? (-significand) with
      | some n => .ok (n, rest)
      | none => real true significand 0 rest
  else match Number.ofInt? significand with
    | some n => .ok (n, rest)
    | none => real false significand 0 rest

/-- Reads what follows the digits before the point; `left` are those that the significand did not
take. -/
def readAfterWhole (negative : Bool) (significand : Nat) (left : List Nat) (bs : Octets) :
    Decoded (Number × Octets) :=
  let plain := if left.isEmpty then wholeOrReal negative significand bs
    else real negative significand left.length bs
  match bs with
  | b :: rest =>
    if b = 0x2E then readFraction negative significand left.length rest
    else if isExponentMark b then readExponent negative significand left.length rest
    else plain
  | [] => plain

/-- Reads a number after its sign. -/
def readNumber (negative : Bool) (bs : Octets) : Decoded (Number × Octets) :=
  match bs with
  | [] => fail .endInValue
  | b :: rest =>
    if b = 0x30 then
      match rest with
      | d :: _ => if isDigit d then fail .numberInvalid else readAfterWhole negative 0 [] rest
      | [] => readAfterWhole negative 0 [] []
    else if isDigit b then
      let (ds, rest) := digitRun bs
      let (s, left) := absorb 0 ds
      readAfterWhole negative s left rest
    else fail .numberInvalid

def skipExponent (bs : Octets) : Decoded Octets :=
  let bs := match bs with
    | b :: rest => if b = 0x2B ∨ b = 0x2D then rest else bs
    | [] => []
  match bs with
  | b :: rest => if isDigit b then .ok (rest.dropWhile isDigit) else fail .numberInvalid
  | [] => fail .numberInvalid

def skipFraction (bs : Octets) : Decoded Octets :=
  match digitRun bs with
  | ([], _) => fail .numberInvalid
  | (_, []) => .ok []
  | (_, b :: rest) => if isExponentMark b then skipExponent rest else .ok (b :: rest)

def skipAfterWhole (bs : Octets) : Decoded Octets :=
  match bs with
  | b :: rest =>
    if b = 0x2E then skipFraction rest
    else if isExponentMark b then skipExponent rest
    else .ok bs
  | [] => .ok []

/-- Passes over a number after its sign. -/
def skipNumber (bs : Octets) : Decoded Octets :=
  match bs with
  | [] => fail .numberInvalid
  | b :: rest =>
    if b = 0x30 then
      match rest with
      | d :: _ => if isDigit d then fail .numberInvalid else skipAfterWhole rest
      | [] => .ok []
    else if isDigit b then skipAfterWhole (rest.dropWhile isDigit)
    else fail .numberInvalid

/-! ## Strings -/

def hexValue (b : UInt8) : Option Nat :=
  if 0x30 ≤ b ∧ b ≤ 0x39 then some (b.toNat - 0x30)
  else if 0x41 ≤ b ∧ b ≤ 0x46 then some (b.toNat - 0x37)
  else if 0x61 ≤ b ∧ b ≤ 0x66 then some (b.toNat - 0x57)
  else none

/-- The octet for which an escape of one letter stands. -/
def escapedOctet (b : UInt8) : Option UInt8 :=
  if b = 0x22 ∨ b = 0x5C ∨ b = 0x2F then some b
  else if b = 0x62 then some 0x08
  else if b = 0x66 then some 0x0C
  else if b = 0x6E then some 0x0A
  else if b = 0x72 then some 0x0D
  else if b = 0x74 then some 0x09
  else none

/-- Where a reader stands inside a string. A `lead` is the first half of a surrogate pair, after
which the escape of the second half is due; `code` is lost when one of four hexadecimal digits is
none. -/
inductive StringState where
  | plain
  | escape
  | hex (left : Nat) (code : Option Nat) (lead : Option Nat)
  | backslashDue (lead : Nat)
  | letterDue (lead : Nat)
  deriving Repr, DecidableEq

/-- What one octet of a string does. The octets found are in reverse. -/
inductive StringStep where
  | onward (state : StringState) (found : Octets)
  | closed
  | refused (m : Malformation)
  deriving Repr, DecidableEq

def pushChar (code : Nat) (found : Octets) : Octets :=
  (String.utf8EncodeChar (Char.ofNat code)).reverse ++ found

/-- A code of four hexadecimal digits, after the first half of a pair if there was one. -/
def StringStep.ofCode (lead : Option Nat) (n : Nat) (found : Octets) : StringStep :=
  let second : Bool := 0xDC00 ≤ n && n ≤ 0xDFFF
  match lead with
  | none =>
    if second then .refused .surrogateAlone
    else if 0xD800 ≤ n ∧ n ≤ 0xDBFF then .onward (.backslashDue n) found
    else .onward .plain (pushChar n found)
  | some l =>
    if second then .onward .plain (pushChar ((l - 0xD800) * 0x400 + (n - 0xDC00) + 0x10000) found)
    else .refused .surrogateAlone

def StringState.next (s : StringState) (found : Octets) (b : UInt8) : StringStep :=
  match s with
  | .plain =>
    if b = 0x22 then .closed
    else if b = 0x5C then .onward .escape found
    else if b < 0x20 then .refused .controlCharacter
    else .onward .plain (b :: found)
  | .escape =>
    match escapedOctet b with
    | some c => .onward .plain (c :: found)
    | none => if b = 0x75 then .onward (.hex 4 (some 0) none) found else .refused .escapeUnknown
  | .hex left code lead =>
    let code := code.bind fun c => (hexValue b).map (c * 16 + ·)
    if 1 < left then .onward (.hex (left - 1) code lead) found
    else match code with
      | some n => .ofCode lead n found
      | none => .refused .escapeUnknown
  | .backslashDue lead =>
    if b = 0x5C then .onward (.letterDue lead) found else .refused .surrogateBroken
  | .letterDue lead =>
    if b = 0x75 then .onward (.hex 4 (some 0) (some lead)) found else .refused .surrogateBroken

/-- Reads on inside a string. The octets between the quotes must be UTF-8. -/
def readStringFrom : StringState → Octets → Octets → Decoded (String × Octets)
  | _, _, [] => fail .endInString
  | s, found, b :: rest =>
    match s.next found b with
    | .onward s found => readStringFrom s found rest
    | .closed =>
      match Text.decode? found.reverse with
      | some text => .ok (text, rest)
      | none => fail .characterInvalid
    | .refused m => fail m

/-- Reads a string after its opening quote. -/
def readString (bs : Octets) : Decoded (String × Octets) :=
  readStringFrom .plain [] bs

/-- Passes over a string; `due` digits are due, of which `bad` says that one was none, and `escaped`
says that the octet before was a backslash. -/
def skipStringFrom : (escaped : Bool) → (due : Nat) → (bad : Bool) → Octets →
    Decoded Octets
  | _, _, _, [] => fail .endInString
  | true, _, _, b :: rest =>
    if (escapedOctet b).isSome then skipStringFrom false 0 false rest
    else if b = 0x75 then skipStringFrom false 4 false rest
    else fail .escapeUnknown
  | false, due + 1, bad, b :: rest =>
    let bad := bad || (hexValue b).isNone
    if due = 0 ∧ bad then fail .escapeUnknown else skipStringFrom false due bad rest
  | false, 0, _, b :: rest =>
    if b = 0x22 then .ok rest
    else if b = 0x5C then skipStringFrom true 0 false rest
    else if b < 0x20 then fail .controlCharacter
    else skipStringFrom false 0 false rest

/-- Passes over a string after its opening quote. -/
def skipString (bs : Octets) : Decoded Octets :=
  skipStringFrom false 0 false bs

/-! ## Arrays and objects -/

/-- Whether another item follows in an array, with the comma before it read. -/
def nextItem (first : Bool) (bs : Octets) : Decoded (Bool × Octets) :=
  match skipBlanks bs with
  | [] => fail .endInList
  | b :: rest =>
    if b = 0x5D then .ok (false, b :: rest)
    else if b = 0x2C ∧ !first then
      match skipBlanks rest with
      | [] => fail .endInValue
      | c :: more => if c = 0x5D then fail .commaTrailing else .ok (true, c :: more)
    else if first then .ok (true, b :: rest)
    else fail .listCommaExpected

/-- Reads the end of an array. -/
def endItems (bs : Octets) : Decoded Octets :=
  match skipBlanks bs with
  | [] => fail .endInList
  | b :: rest =>
    if b = 0x5D then .ok rest
    else if b = 0x2C then
      match skipBlanks rest with
      | c :: _ => if c = 0x5D then fail .commaTrailing else fail .charactersTrailing
      | [] => fail .charactersTrailing
    else fail .charactersTrailing

def readKey (bs : Octets) : Decoded (Option String × Octets) := do
  let (key, rest) ← readString bs
  return (some key, rest)

/-- The key of the next member of an object, if one follows, with the comma before it read. -/
def nextKey (first : Bool) (bs : Octets) : Decoded (Option String × Octets) :=
  match skipBlanks bs with
  | [] => fail .endInObject
  | b :: rest =>
    if b = 0x7D then .ok (none, b :: rest)
    else if b = 0x2C ∧ !first then
      match skipBlanks rest with
      | [] => fail .endInValue
      | c :: more =>
        if c = 0x22 then readKey more
        else if c = 0x7D then fail .commaTrailing
        else fail .keyNotString
    else if first then
      if b = 0x22 then readKey rest else fail .keyNotString
    else fail .objectCommaExpected

/-- Reads the end of an object. -/
def endMembers (bs : Octets) : Decoded Octets :=
  match skipBlanks bs with
  | [] => fail .endInObject
  | b :: rest =>
    if b = 0x7D then .ok rest
    else if b = 0x2C then fail .commaTrailing
    else fail .charactersTrailing

/-- Reads the colon between a key and its value. -/
def readColon (bs : Octets) : Decoded Octets :=
  match skipBlanks bs with
  | [] => fail .endInObject
  | b :: rest => if b = 0x3A then .ok rest else fail .colonExpected

/-- Items up to the end of an array; there are fewer than `fuel`. -/
def readItems {α : Type} (item : Octets → Decoded (α × Octets)) :
    (fuel : Nat) → (first : Bool) → List α → Octets → Decoded (List α × Octets)
  | 0, _, _, _ => fail .endInList
  | fuel + 1, first, found, bs => do
    match ← nextItem first bs with
    | (false, rest) => return (found.reverse, rest)
    | (true, rest) =>
      let (x, rest) ← item rest
      readItems item fuel false (x :: found) rest

/-- Members up to the end of an object, each value read with the key in hand. -/
def foldMembers {σ : Type} (member : σ → String → Octets → Decoded (σ × Octets)) :
    (fuel : Nat) → (first : Bool) → σ → Octets → Decoded (σ × Octets)
  | 0, _, _, _ => fail .endInObject
  | fuel + 1, first, s, bs => do
    match ← nextKey first bs with
    | (none, rest) => return (s, rest)
    | (some key, rest) =>
      let (s, rest) ← member s key rest
      foldMembers member fuel false s rest

/-! ## Values of any kind -/

/-- Reads a value of any kind, and what is nested in it by `nested`, if nesting is still allowed. -/
def readValueWith (nested : Option (Octets → Decoded (Json × Octets))) (bs : Octets) :
    Decoded (Json × Octets) :=
  match skipBlanks bs with
  | [] => fail .endInValue
  | b :: rest =>
    if b = 0x6E then do return (.null, ← readWord afterN rest)
    else if b = 0x74 then do return (.bool true, ← readWord afterT rest)
    else if b = 0x66 then do return (.bool false, ← readWord afterF rest)
    else if b = 0x2D then do
      let (n, rest) ← readNumber true rest
      return (.num n, rest)
    else if isDigit b then do
      let (n, rest) ← readNumber false (b :: rest)
      return (.num n, rest)
    else if b = 0x22 then do
      let (s, rest) ← readString rest
      return (.str s, rest)
    else if b = 0x5B then
      match nested with
      | none => fail .nestedTooDeeply
      | some read => do
        let (items, rest) ← readItems read (rest.length + 1) true [] rest
        return (.arr items, ← endItems rest)
    else if b = 0x7B then
      match nested with
      | none => fail .nestedTooDeeply
      | some read => do
        let member (ms : List (String × Json)) (key : String) (bs : Octets) := do
          let (v, rest) ← read (← readColon bs)
          return (insertMember key v ms, rest)
        let (members, rest) ← foldMembers member (rest.length + 1) true [] rest
        return (.obj members, ← endMembers rest)
    else fail .valueExpected

/-- Reads a value in which at most `depth` arrays and objects are nested. -/
def readValue : (depth : Nat) → Octets → Decoded (Json × Octets)
  | 0 => readValueWith none
  | depth + 1 => readValueWith (some (readValue depth))

theorem readValue_succ (depth : Nat) :
    readValue (depth + 1) = readValueWith (some (readValue depth)) := rfl

/-- How deep arrays and objects may be nested. -/
def greatestDepth : Nat := 127

/-- Passes over a scalar, or over the bracket that opens an array or an object, which is told. -/
def skipScalar (bs : Octets) : Decoded (Option UInt8 × Octets) :=
  match skipBlanks bs with
  | [] => fail .endInValue
  | b :: rest =>
    if b = 0x6E then do return (none, ← readWord afterN rest)
    else if b = 0x74 then do return (none, ← readWord afterT rest)
    else if b = 0x66 then do return (none, ← readWord afterF rest)
    else if b = 0x2D then do return (none, ← skipNumber rest)
    else if isDigit b then do return (none, ← skipNumber (b :: rest))
    else if b = 0x22 then do return (none, ← skipString rest)
    else if b = 0x5B ∨ b = 0x7B then .ok (some b, rest)
    else fail .valueExpected

/-- Passes over a key and its colon. -/
def skipKey (bs : Octets) : Decoded Octets :=
  match skipBlanks bs with
  | [] => fail .endInObject
  | b :: rest =>
    if b = 0x22 then do readColon (← skipString rest) else fail .keyNotString

/-- Passes over what is left of the `opened` brackets, innermost first. A `fresh` innermost bracket
has no item yet; otherwise a comma or the end is due. -/
def skipNested : (fuel : Nat) → (fresh : Bool) → (opened : List UInt8) → Octets →
    Decoded Octets
  | 0, _, _, _ => fail .endInValue
  | _ + 1, _, [], bs => .ok bs
  | fuel + 1, fresh, o :: outer, bs =>
    let inObject := o = 0x7B
    let item (bs : Octets) : Decoded Octets := do
      let bs ← if inObject then skipKey bs else pure bs
      match ← skipScalar bs with
      | (none, rest) => skipNested fuel false (o :: outer) rest
      | (some b, rest) => skipNested fuel true (b :: o :: outer) rest
    match skipBlanks bs with
    | [] => fail (if inObject then .endInObject else .endInList)
    | b :: rest =>
      if b = 0x2C ∧ !fresh then item rest
      else if b = (if inObject then 0x7D else 0x5D) then skipNested fuel false outer rest
      else if fresh then item (b :: rest)
      else fail (if inObject then .objectCommaExpected else .listCommaExpected)

/-- Passes over a value of any kind. -/
def skipValue (bs : Octets) : Decoded Octets := do
  match ← skipScalar bs with
  | (none, rest) => return rest
  | (some b, rest) => skipNested (rest.length + 1) true [b] rest

/-- Only blanks may follow the value of a text. -/
def endText (bs : Octets) : Decoded Unit :=
  if (skipBlanks bs).isEmpty then .ok () else fail .charactersTrailing

/-- Reads a whole text by a reader that is told how deep it may nest. -/
def readText {α : Type} (read : Nat → Octets → Decoded (α × Octets)) (bs : Octets) : Decoded α := do
  let (x, rest) ← read greatestDepth bs
  endText rest
  return x

/-- The value that the octets hold. -/
def ofOctets? (bs : Octets) : Decoded Json :=
  readText readValue bs

/-- The value that a text holds. -/
def parse (s : String) : Decoded Json :=
  ofOctets? (Text.octets s)

end PlatformLink.Json
