import PlatformLink.Json.Value

/-!
# Looking into JSON values

What a value is, and what its members are. A member that is `null` counts as missing, except where
the member is asked for as it stands.
-/

namespace PlatformLink.Json

/-- A member as it stands, even `null`. -/
def present? (v : Json) (key : String) : Option Json :=
  match v with
  | .obj members => member? key members
  | _ => none

/-- A member that is not `null`. -/
def get? (v : Json) (key : String) : Option Json :=
  match v.present? key with
  | some .null => none
  | m => m

/-- A member, `null` where there is none. -/
def getOrNull (v : Json) (key : String) : Json :=
  (v.present? key).getD .null

def string? : Json → Option String
  | .str s => some s
  | _ => none

def int? : Json → Option Int
  | .num (.whole n _) => some n
  | _ => none

/-- A whole number that is not negative. -/
def nat? (v : Json) : Option Nat :=
  v.int?.bind fun n => if 0 ≤ n then some n.toNat else none

def items? : Json → Option (List Json)
  | .arr items => some items
  | _ => none

def getString? (v : Json) (key : String) : Option String :=
  (v.get? key).bind string?

def getNat? (v : Json) (key : String) : Option Nat :=
  (v.get? key).bind nat?

/-- The items of a member, none where it is missing. -/
def getItems (v : Json) (key : String) : List Json :=
  ((v.get? key).bind items?).getD []

/-- Whether a member is `true`. -/
def getFlag (v : Json) (key : String) : Bool :=
  match v.get? key with
  | some (.bool b) => b
  | _ => false

/-- An object with more members, which replace those that it had of their names. -/
def withMembers (v : Json) (members : List (String × Json)) : Json :=
  match v with
  | .obj own => .obj (members.foldl (fun ms m => insertMember m.1 m.2 ms) own)
  | v => v

/-- The number, or `null` for one out of range. -/
def ofInt (n : Int) : Json :=
  match Number.ofInt? n with
  | some n => .num n
  | none => .null

def ofNat (n : Nat) : Json :=
  ofInt n

def ofStrings (xs : List String) : Json :=
  .arr (xs.map .str)

/-- What there is, or `null`. -/
def ofOption {α : Type} (f : α → Json) : Option α → Json
  | some x => f x
  | none => .null

end PlatformLink.Json
