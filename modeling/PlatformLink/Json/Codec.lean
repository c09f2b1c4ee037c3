import PlatformLink.Json.Reader
import PlatformLink.Json.Writer

/-!
# Codecs

A codec says how the values of a type are read from text and from a JSON value, and how they are
written as either. Reading from text is told how many more arrays and objects may be nested.
-/

namespace PlatformLink.Json

open Text (Octets)

structure Codec (α : Type) where
  read : (depth : Nat) → Octets → Decoded (α × Octets)
  ofJson : Json → Decoded α
  write : α → String
  toJson : α → Json

/-- Reads what stands somewhere far enough to name it. Of arrays and objects only the bracket is
looked at. -/
def readFound (bs : Octets) : Decoded Found :=
  match bs with
  | [] => fail .endInValue
  | b :: rest =>
    if b = 0x6E then do
      let _ ← readWord afterN rest
      return .null
    else if b = 0x74 then do
      let _ ← readWord afterT rest
      return .bool true
    else if b = 0x66 then do
      let _ ← readWord afterF rest
      return .bool false
    else if b = 0x2D then do
      let (n, _) ← readNumber true rest
      return n.found
    else if isDigit b then do
      let (n, _) ← readNumber false (b :: rest)
      return n.found
    else if b = 0x22 then do
      let (s, _) ← readString rest
      return .str s
    else if b = 0x5B then .ok .sequence
    else if b = 0x7B then .ok .map
    else fail .valueExpected

/-- Refuses what stands where something else was expected. -/
def mismatch {α : Type} (expected : String) (bs : Octets) : Decoded α := do
  let f ← readFound bs
  .error (.wrongType f expected)

/-- Spends one level of nesting. -/
def nest {α : Type} (depth : Nat) (inner : Nat → Decoded α) : Decoded α :=
  match depth with
  | 0 => fail .nestedTooDeeply
  | depth + 1 => inner depth

theorem nest_succ {α : Type} (depth : Nat) (inner : Nat → Decoded α) :
    nest (depth + 1) inner = inner depth := rfl

namespace Codec

/-- Any value. -/
def json : Codec Json where
  read := readValue
  ofJson := .ok
  write := Json.write
  toJson := id

/-- A string, named as `expected` where something else stands. -/
def readTextAs (expected : String) (bs : Octets) : Decoded (String × Octets) :=
  match skipBlanks bs with
  | [] => fail .endInValue
  | b :: rest => if b = 0x22 then readString rest else mismatch expected (b :: rest)

def text : Codec String where
  read _ bs := readTextAs "a string" bs
  ofJson
    | .str s => .ok s
    | v => .error (.wrongType v.found "a string")
  write := writeString
  toJson := .str

/-- A whole number below a bound. -/
def natBelow (bound : Nat) (expected : String) : Number → Decoded Nat
  | .whole n _ =>
    if 0 ≤ n ∧ n < bound then .ok n.toNat else .error (.wrongValue (.whole n) expected)
  | .real x => .error (.wrongType (.real x) expected)

def readNatBelow (bound : Nat) (expected : String) (bs : Octets) : Decoded (Nat × Octets) :=
  match skipBlanks bs with
  | [] => fail .endInValue
  | b :: rest =>
    if b = 0x2D then do
      let (n, rest) ← readNumber true rest
      return (← natBelow bound expected n, rest)
    else if isDigit b then do
      let (n, rest) ← readNumber false (b :: rest)
      return (← natBelow bound expected n, rest)
    else mismatch expected (b :: rest)

def natBelowOfJson (bound : Nat) (expected : String) : Json → Decoded Nat
  | .num n => natBelow bound expected n
  | v => .error (.wrongType v.found expected)

def uint32 : Codec UInt32 where
  read _ bs := do
    let (n, rest) ← readNatBelow UInt32.size "u32" bs
    return (UInt32.ofNat n, rest)
  ofJson v := do return UInt32.ofNat (← natBelowOfJson UInt32.size "u32" v)
  write n := toString n.toNat
  toJson := ofUInt32

def uint64 : Codec UInt64 where
  read _ bs := do
    let (n, rest) ← readNatBelow UInt64.size "u64" bs
    return (UInt64.ofNat n, rest)
  ofJson v := do return UInt64.ofNat (← natBelowOfJson UInt64.size "u64" v)
  write n := toString n.toNat
  toJson := ofUInt64

/-- A value or `null` in its place. -/
def option {α : Type} (c : Codec α) : Codec (Option α) where
  read depth bs :=
    match skipBlanks bs with
    | [] => fail .endInValue
    | b :: rest =>
      if b = 0x6E then do return (none, ← readWord afterN rest)
      else do
        let (x, rest) ← c.read depth (b :: rest)
        return (some x, rest)
  ofJson
    | .null => .ok none
    | v => do return some (← c.ofJson v)
  write
    | none => "null"
    | some x => c.write x
  toJson
    | none => .null
    | some x => c.toJson x

def list {α : Type} (c : Codec α) : Codec (List α) where
  read depth bs :=
    match skipBlanks bs with
    | [] => fail .endInValue
    | b :: rest =>
      if b = 0x5B then
        nest depth fun depth => do
          let (xs, rest) ← readItems (c.read depth) (rest.length + 1) true [] rest
          return (xs, ← endItems rest)
      else mismatch "a sequence" (b :: rest)
  ofJson
    | .arr items => items.mapM c.ofJson
    | v => .error (.wrongType v.found "a sequence")
  write xs := writeArray (xs.map c.write)
  toJson xs := .arr (xs.map c.toJson)

/-- The variant of a name. -/
def variant {α : Type} (variants : List (String × α)) (name : String) : Decoded α :=
  match variants.find? (·.1 == name) with
  | some v => .ok v.2
  | none => .error (.unknownVariant name (variants.map (·.1)))

def readUnit (bs : Octets) : Decoded Octets :=
  match skipBlanks bs with
  | [] => fail .endInValue
  | b :: rest => if b = 0x6E then readWord afterN rest else mismatch "unit" (b :: rest)

def unitOfJson : Json → Decoded Unit
  | .null => .ok ()
  | v => .error (.wrongType v.found "unit")

/-- Reads the name of the variant that an object holds. -/
def readVariantKey (bs : Octets) : Decoded (String × Octets) :=
  match skipBlanks bs with
  | [] => fail .endInObject
  | b :: rest =>
    if b = 0x22 then readString rest
    else if b = 0x7D then fail .valueExpected
    else fail .keyNotString

/-- Reads the end of an object that holds one variant. -/
def endVariant (bs : Octets) : Decoded Octets :=
  match skipBlanks bs with
  | [] => fail .endInObject
  | b :: rest => if b = 0x7D then .ok rest else fail .valueExpected

/-- One of some named values: its name, or an object with the name as its one key and the value
`null`. -/
def choice {α : Type} (variants : List (String × α)) (name : α → String) : Codec α where
  read depth bs :=
    match skipBlanks bs with
    | [] => fail .endInValue
    | b :: rest =>
      if b = 0x22 then do
        let (s, rest) ← readString rest
        return (← variant variants s, rest)
      else if b = 0x7B then
        nest depth fun _ => do
          let (s, rest) ← readVariantKey rest
          let x ← variant variants s
          let rest ← readUnit (← readColon rest)
          return (x, ← endVariant rest)
      else fail .valueExpected
  ofJson
    | .str s => variant variants s
    | .obj [(s, v)] => do
      let x ← variant variants s
      unitOfJson v
      return x
    | .obj _ => .error (.wrongValue .map "map with a single key")
    | v => .error (.wrongType v.found "string or map")
  write x := writeString (name x)
  toJson x := .str (name x)

/-- Reads a whole text. -/
def decodeOctets {α : Type} (c : Codec α) (bs : Octets) : Decoded α :=
  readText c.read bs

def decode {α : Type} (c : Codec α) (s : String) : Decoded α :=
  c.decodeOctets (Text.octets s)

end Codec

end PlatformLink.Json
