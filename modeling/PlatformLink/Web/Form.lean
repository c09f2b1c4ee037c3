import PlatformLink.Web.Percent

/-!
# Form-encoded pairs

A list of pairs as the query of a URL: `&` between pairs, `=` between a name and its value, `+` for
a space. Only letters, digits and `*-._` stand for themselves.
-/

namespace PlatformLink.Web

open Text (Octets)

def isFormPlain (c : Char) : Bool :=
  c.isAlphanum || c == '*' || c == '-' || c == '.' || c == '_'

/-- Encodes one name or value. -/
def formEncode (cs : List Char) : List Char :=
  cs.flatMap fun c =>
    if c = ' ' then ['+'] else percentChar (fun c => !isFormPlain c) c

/-- The octets of one encoded name or value. -/
def formDecode (cs : List Char) : Octets :=
  percentDecode (cs.map fun c => if c = '+' then ' ' else c)

def formPair (name value : String) : List Char :=
  formEncode name.toList ++ '=' :: formEncode value.toList

/-- Adds a pair to a query; between pairs stands `&`. -/
def appendPair (query : Option String) (name value : String) : String :=
  match query with
  | some q =>
    if q.isEmpty then String.ofList (formPair name value)
    else q ++ "&" ++ String.ofList (formPair name value)
  | none => String.ofList (formPair name value)

end PlatformLink.Web
