import PlatformLink.Json.Record

/-!
# Tagged values

A value with one of several tags, some of which carry a text. It is written as an object with the
tag under one key and the text, if there is one, under another; both keys may come in either order,
and an array of tag and content is read as well. Content that comes before its tag is kept until the
tag is known.
-/

namespace PlatformLink.Json

open Text (Octets)

/-- What a tag stands for: a value, or a value for each text. -/
inductive Tag (α : Type) where
  | bare (x : α)
  | carrying (f : String → α)

structure Tagging (α : Type) where
  name : String
  tagKey : String
  contentKey : String
  tags : List (String × Tag α)
  tagOf : α → String
  contentOf : α → Option String

namespace Tagging

variable {α : Type} (t : Tagging α)

def expected : String :=
  "adjacently tagged enum " ++ t.name

def bareExpected (tag : String) : String :=
  "unit variant " ++ t.name ++ "::" ++ tag

/-- The tag of a name, with the name. -/
def tagCodec : Codec (String × Tag α) :=
  .choice (t.tags.map fun g => (g.1, g)) (·.1)

/-- The tag in an array, where its name stands alone. -/
def readTagName (bs : Octets) : Decoded ((String × Tag α) × Octets) := do
  let (s, rest) ← Codec.readTextAs "variant identifier" bs
  return (← Codec.variant (t.tags.map fun g => (g.1, g)) s, rest)

def ofTagName : Json → Decoded (String × Tag α)
  | .str s => Codec.variant (t.tags.map fun g => (g.1, g)) s
  | v => .error (.wrongType v.found "variant identifier")

/-- Reads the content that belongs to a tag. -/
def readContent (g : String × Tag α) (depth : Nat) (bs : Octets) : Decoded (α × Octets) :=
  match g.2 with
  | .bare x =>
    match skipBlanks bs with
    | [] => fail .endInValue
    | b :: rest =>
      if b = 0x6E then do return (x, ← readWord afterN rest)
      else if b = 0x5B ∨ b = 0x7B then
        nest depth fun _ => mismatch (t.bareExpected g.1) (b :: rest)
      else mismatch (t.bareExpected g.1) (b :: rest)
  | .carrying f => do
    let (s, rest) ← Codec.text.read depth bs
    return (f s, rest)

def ofContent (g : String × Tag α) (v : Json) : Decoded α :=
  match g.2, v with
  | .bare x, .null => .ok x
  | .bare _, v => .error (.wrongType v.found (t.bareExpected g.1))
  | .carrying f, v => do return f (← Codec.text.ofJson v)

/-- A tag whose content is missing. -/
def withoutContent (g : String × Tag α) : Decoded α :=
  match g.2 with
  | .bare x => .ok x
  | .carrying _ => .error (.missingField t.contentKey)

/-- What has been found of a tagged value. -/
inductive Progress (α : Type) where
  | nothing
  | tagOnly (g : String × Tag α)
  | contentOnly (v : Json)
  | complete (x : α)

/-- Reads one member of the object. -/
def readMember (depth : Nat) (p : Progress α) (key : String) (bs : Octets) :
    Decoded (Progress α × Octets) :=
  if key = t.tagKey then
    match p with
    | .nothing => do
      let (g, rest) ← t.tagCodec.read depth (← readColon bs)
      return (.tagOnly g, rest)
    | .contentOnly v => do
      let (g, rest) ← t.tagCodec.read depth (← readColon bs)
      return (.complete (← t.ofContent g v), rest)
    | .tagOnly _ | .complete _ => .error (.duplicateField t.tagKey)
  else if key = t.contentKey then
    match p with
    | .nothing => do
      let (v, rest) ← readValue depth (← readColon bs)
      return (.contentOnly v, rest)
    | .tagOnly g => do
      let (x, rest) ← t.readContent g depth (← readColon bs)
      return (.complete x, rest)
    | .contentOnly _ | .complete _ => .error (.duplicateField t.contentKey)
  else do return (p, ← skipValue (← readColon bs))

def finish : Progress α → Decoded α
  | .nothing | .contentOnly _ => .error (.missingField t.tagKey)
  | .tagOnly g => t.withoutContent g
  | .complete x => .ok x

/-- Reads tag and content from the items of an array. -/
def readPositions (depth : Nat) (bs : Octets) : Decoded (α × Octets) := do
  match ← nextItem true bs with
  | (false, _) => .error (.wrongLength 0 t.expected)
  | (true, bs) =>
    let (g, bs) ← t.readTagName bs
    match ← nextItem false bs with
    | (false, _) => .error (.wrongLength 1 t.expected)
    | (true, bs) => t.readContent g depth bs

def ofItems : List Json → Decoded (α × List Json)
  | [] => .error (.wrongLength 0 t.expected)
  | [v] => do
    let _ ← t.ofTagName v
    .error (.wrongLength 1 t.expected)
  | v :: w :: rest => do
    let g ← t.ofTagName v
    return (← t.ofContent g w, rest)

/-- The value of an object; its content is looked at once the tag is known. -/
def ofMembers (members : List (String × Json)) : Decoded α :=
  match member? t.tagKey members, member? t.contentKey members with
  | none, _ => .error (.missingField t.tagKey)
  | some v, content => do
    let g ← t.tagCodec.ofJson v
    match content with
    | some w => t.ofContent g w
    | none => t.withoutContent g

/-- The members in the order of writing. -/
def members (x : α) : List (String × String) :=
  (t.tagKey, t.tagOf x) :: match t.contentOf x with
    | some s => [(t.contentKey, s)]
    | none => []

def codec : Codec α where
  read depth bs :=
    match skipBlanks bs with
    | [] => fail .endInValue
    | b :: rest =>
      if b = 0x5B then
        nest depth fun depth => do
          let (x, rest) ← t.readPositions depth rest
          return (x, ← endItems rest)
      else if b = 0x7B then
        nest depth fun depth => do
          let (p, rest) ← foldMembers (t.readMember depth) (rest.length + 1) true .nothing rest
          let x ← t.finish p
          return (x, ← endMembers rest)
      else mismatch t.expected (b :: rest)
  ofJson
    | .arr items => do
      let (x, left) ← t.ofItems items
      if left.isEmpty then return x
      else .error (.wrongLength items.length "fewer elements in array")
    | .obj members => t.ofMembers members
    | v => .error (.wrongType v.found t.expected)
  write x := writeObject ((t.members x).map fun m => (m.1, writeString m.2))
  toJson x := object ((t.members x).map fun m => (m.1, .str m.2))

end Tagging

end PlatformLink.Json
