import PlatformLink.Decimal.Shortest

/-!
# JSON values

A number is whole when it fits into 64 bits, with or without a sign, and a binary floating point
number otherwise. The members of an object are kept sorted by key; adding a member replaces an
earlier one of the same key.
-/

namespace PlatformLink

namespace Json

def leastWhole : Int := -9223372036854775808

def greatestWhole : Int := 18446744073709551615

/-- A number of JSON. -/
inductive Number where
  | whole (n : Int) (bounds : leastWhole ≤ n ∧ n ≤ greatestWhole)
  | real (x : Decimal.Binary64)
  deriving DecidableEq

instance : Inhabited Number := ⟨.real default⟩

end Json

inductive Json where
  | null
  | bool (b : Bool)
  | num (n : Json.Number)
  | str (s : String)
  | arr (items : List Json)
  | obj (members : List (String × Json))
  deriving Inhabited

namespace Json

/-- The whole number, if it is in range. -/
def Number.ofInt? (n : Int) : Option Number :=
  if h : leastWhole ≤ n ∧ n ≤ greatestWhole then some (.whole n h) else none

def ofUInt32 (n : UInt32) : Json :=
  .num (.whole n.toNat ⟨by simp only [leastWhole]; omega, by
    have := n.toNat_lt
    simp only [greatestWhole]; omega⟩)

def ofUInt64 (n : UInt64) : Json :=
  .num (.whole n.toNat ⟨by simp only [leastWhole]; omega, by
    have := n.toNat_lt
    simp only [greatestWhole]; omega⟩)

/-- Puts a member in its place by key, instead of one that had the key. -/
def insertMember (key : String) (v : Json) : List (String × Json) → List (String × Json)
  | [] => [(key, v)]
  | m :: rest =>
    if key < m.1 then (key, v) :: m :: rest
    else if key = m.1 then (key, v) :: rest
    else m :: insertMember key v rest

/-- The object of the members; of several with one key the last stays. -/
def object (members : List (String × Json)) : Json :=
  .obj (members.foldl (fun ms m => insertMember m.1 m.2 ms) [])

/-- The value of a member. -/
def member? (key : String) (members : List (String × Json)) : Option Json :=
  (members.find? (·.1 == key)).map (·.2)

end Json

end PlatformLink
