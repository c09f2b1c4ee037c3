import PlatformLink.Json.Codec

/-!
# Records as objects

A record is written as an object of its members in their order. It is read from an object with the
members in any order, unknown ones passed over, or from an array of the members in their order. One
ordered description of the members serves reading and writing.
-/

namespace PlatformLink.Json

open Text (Octets)

/-- A member of a record. Where it is missing it may stand for a value: `byName` in an object and
`byPosition` at the end of an array. A value that is `omitted` is not written. -/
structure Field (α : Type) where
  name : String
  codec : Codec α
  byName : Option α
  byPosition : Option α
  omitted : α → Bool

namespace Field

def required {α : Type} (name : String) (codec : Codec α) : Field α :=
  ⟨name, codec, none, none, fun _ => false⟩

/-- A member that is not written when there is no value. -/
def optional {α : Type} (name : String) (codec : Codec α) : Field (Option α) :=
  ⟨name, codec.option, some none, some none, Option.isNone⟩

/-- A member that may be missing in an object, and is written as `null` when there is no value. -/
def nullable {α : Type} (name : String) (codec : Codec α) : Field (Option α) :=
  ⟨name, codec.option, some none, none, fun _ => false⟩

def defaulting {α : Type} (name : String) (codec : Codec α) (missing : α) : Field α :=
  ⟨name, codec, some missing, some missing, fun _ => false⟩

end Field

/-- The members of a record in their order. While an object is read each member has a slot, empty
until it is found; afterwards the values make up a product. -/
inductive Members : (slots values : Type) → Type 1 where
  | nil : Members Unit Unit
  | cons {α δ β : Type} (f : Field α) (rest : Members δ β) : Members (Option α × δ) (α × β)

namespace Members

def size {δ β : Type} : Members δ β → Nat
  | nil => 0
  | cons _ rest => rest.size + 1

def empty {δ β : Type} : Members δ β → δ
  | nil => ()
  | cons _ rest => (none, rest.empty)

/-- How the value of a key is read into its slot: `none` for a key that names no member, and a fault
for a slot that is filled. -/
def claim {δ β : Type} : Members δ β → String → δ →
    Option (Decoded (Nat → Octets → Decoded (δ × Octets)))
  | nil, _, _ => none
  | cons f rest, key, (slot, slots) =>
    if key = f.name then
      some (if slot.isSome then .error (.duplicateField f.name)
        else .ok fun depth bs => do
          let (x, left) ← f.codec.read depth bs
          return ((some x, slots), left))
    else
      (rest.claim key slots).map fun
        | .error e => .error e
        | .ok read => .ok fun depth bs => do
          let (slots, left) ← read depth bs
          return ((slot, slots), left)

/-- Puts the value of a key into its slot; a key that names no member changes nothing. -/
def put {δ β : Type} : Members δ β → String → Json → δ → Decoded δ
  | nil, _, _, () => .ok ()
  | cons f rest, key, v, (slot, slots) =>
    if key = f.name then do return (some (← f.codec.ofJson v), slots)
    else do return (slot, ← rest.put key v slots)

/-- The values of the slots; the first member that may not be missing and is names the fault. -/
def finish {δ β : Type} : Members δ β → δ → Decoded β
  | nil, () => .ok ()
  | cons f rest, (slot, slots) =>
    match slot <|> f.byName with
    | some x => do return (x, ← rest.finish slots)
    | none => .error (.missingField f.name)

/-- Reads the members from the items of an array. -/
def readPositions {δ β : Type} (expected : String) (depth : Nat) : Members δ β → (index : Nat) →
    Octets → Decoded (β × Octets)
  | nil, _, bs => .ok ((), bs)
  | cons f rest, index, bs => do
    match ← nextItem (index == 0) bs with
    | (true, bs) =>
      let (x, bs) ← f.codec.read depth bs
      let (xs, bs) ← rest.readPositions expected depth (index + 1) bs
      return ((x, xs), bs)
    | (false, bs) =>
      match f.byPosition with
      | some x =>
        let (xs, bs) ← rest.readPositions expected depth (index + 1) bs
        return ((x, xs), bs)
      | none => .error (.wrongLength index expected)

/-- The members from the items of an array, and the items left. -/
def ofItems {δ β : Type} (expected : String) : Members δ β → (index : Nat) → List Json →
    Decoded (β × List Json)
  | nil, _, items => .ok ((), items)
  | cons f rest, index, v :: items => do
    let x ← f.codec.ofJson v
    let (xs, items) ← rest.ofItems expected (index + 1) items
    return ((x, xs), items)
  | cons f rest, index, [] =>
    match f.byPosition with
    | some x => do
      let (xs, items) ← rest.ofItems expected (index + 1) []
      return ((x, xs), items)
    | none => .error (.wrongLength index expected)

def write {δ β : Type} : Members δ β → β → List (String × String)
  | nil, () => []
  | cons f rest, (x, xs) =>
    if f.omitted x then rest.write xs else (f.name, f.codec.write x) :: rest.write xs

def toJson {δ β : Type} : Members δ β → β → List (String × Json)
  | nil, () => []
  | cons f rest, (x, xs) =>
    if f.omitted x then rest.toJson xs else (f.name, f.codec.toJson x) :: rest.toJson xs

/-- Reads one member of an object. -/
def readMember {δ β : Type} (ms : Members δ β) (depth : Nat) (slots : δ) (key : String)
    (bs : Octets) : Decoded (δ × Octets) :=
  match ms.claim key slots with
  | none => do return (slots, ← skipValue (← readColon bs))
  | some (.error e) => .error e
  | some (.ok read) => do read depth (← readColon bs)

end Members

/-- A record called `name`, with its members taken apart and put together. -/
def Codec.record {α δ β : Type} (name : String) (ms : Members δ β) (parts : α → β)
    (build : β → α) : Codec α :=
  let elements := "struct " ++ name ++ " with " ++ toString ms.size ++
    (if ms.size = 1 then " element" else " elements")
  { read := fun depth bs =>
      match skipBlanks bs with
      | [] => fail .endInValue
      | b :: rest =>
        if b = 0x5B then
          nest depth fun depth => do
            let (xs, rest) ← ms.readPositions elements depth 0 rest
            return (build xs, ← endItems rest)
        else if b = 0x7B then
          nest depth fun depth => do
            let (slots, rest) ←
              foldMembers (ms.readMember depth) (rest.length + 1) true ms.empty rest
            let xs ← ms.finish slots
            return (build xs, ← endMembers rest)
        else mismatch ("struct " ++ name) (b :: rest)
    ofJson := fun
      | .arr items => do
        let (xs, left) ← ms.ofItems elements 0 items
        if left.isEmpty then return build xs
        else .error (.wrongLength items.length "fewer elements in array")
      | .obj members => do
        let slots ← members.foldlM (fun slots m => ms.put m.1 m.2 slots) ms.empty
        return build (← ms.finish slots)
      | v => .error (.wrongType v.found ("struct " ++ name))
    write := fun x => writeObject (ms.write (parts x))
    toJson := fun x => object (ms.toJson (parts x)) }

end PlatformLink.Json
