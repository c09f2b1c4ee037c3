import PlatformLink.Json.Value
import PlatformLink.Text.Quoted

/-!
# JSON text

The compact text of a value. Only quotes, backslashes and control characters are escaped in strings;
every other character stands for itself.
-/

namespace PlatformLink.Json

def hexDigit (n : Nat) : Char :=
  Nat.digitChar (n % 16)

def escapedChar (c : Char) : List Char :=
  if c = '"' then ['\\', '"']
  else if c = '\\' then ['\\', '\\']
  else if c = '\x08' then ['\\', 'b']
  else if c = '\t' then ['\\', 't']
  else if c = '\n' then ['\\', 'n']
  else if c = '\x0c' then ['\\', 'f']
  else if c = '\r' then ['\\', 'r']
  else if c.toNat < 0x20 then ['\\', 'u', '0', '0', hexDigit (c.toNat / 16), hexDigit c.toNat]
  else [c]

/-- A string as JSON text. -/
def writeString (s : String) : String :=
  "\"" ++ String.ofList (s.toList.flatMap escapedChar) ++ "\""

def Number.write : Number → String
  | .whole n _ => toString n
  | .real x => x.text

def writeMember (m : String × String) : String :=
  writeString m.1 ++ ":" ++ m.2

/-- An array of items already written. -/
def writeArray (items : List String) : String :=
  "[" ++ ",".intercalate items ++ "]"

/-- An object of members whose values are already written. -/
def writeObject (members : List (String × String)) : String :=
  "\x7b" ++ ",".intercalate (members.map writeMember) ++ "\x7d"

mutual

/-- The compact text of a value. -/
def write : Json → String
  | .null => "null"
  | .bool b => if b then "true" else "false"
  | .num n => n.write
  | .str s => writeString s
  | .arr items => writeArray (writeItems items)
  | .obj members => writeObject (writeMembers members)

def writeItems : List Json → List String
  | [] => []
  | v :: rest => v.write :: writeItems rest

def writeMembers : List (String × Json) → List (String × String)
  | [] => []
  | (key, v) :: rest => (key, v.write) :: writeMembers rest

end

theorem writeItems_eq_map (items : List Json) : writeItems items = items.map write := by
  induction items with
  | nil => simp [writeItems]
  | cons v rest ih => simp [writeItems, ih]

theorem writeMembers_eq_map (members : List (String × Json)) :
    writeMembers members = members.map fun m => (m.1, m.2.write) := by
  induction members with
  | nil => simp [writeMembers]
  | cons m rest ih => obtain ⟨key, v⟩ := m; simp [writeMembers, ih]

end PlatformLink.Json
