import PlatformLink.Json.Value
import PlatformLink.Text.Quoted

/-!
# What a reader of JSON refuses

Either the text is malformed, or it is well formed and does not hold what was asked for. Positions
in the text are not kept.
-/

namespace PlatformLink.Json

/-- How a text fails to be JSON. -/
inductive Malformation where
  | endInValue
  | endInList
  | endInObject
  | endInString
  | colonExpected
  | listCommaExpected
  | objectCommaExpected
  | wordExpected
  | valueExpected
  | escapeUnknown
  | numberInvalid
  | numberTooLarge
  | characterInvalid
  | controlCharacter
  | keyNotString
  | surrogateAlone
  | surrogateBroken
  | commaTrailing
  | charactersTrailing
  | nestedTooDeeply
  deriving Repr, DecidableEq

def Malformation.message : Malformation → String
  | .endInValue => "EOF while parsing a value"
  | .endInList => "EOF while parsing a list"
  | .endInObject => "EOF while parsing an object"
  | .endInString => "EOF while parsing a string"
  | .colonExpected => "expected `:`"
  | .listCommaExpected => "expected `,` or `]`"
  | .objectCommaExpected => "expected `,` or `\x7d`"
  | .wordExpected => "expected ident"
  | .valueExpected => "expected value"
  | .escapeUnknown => "invalid escape"
  | .numberInvalid => "invalid number"
  | .numberTooLarge => "number out of range"
  | .characterInvalid => "invalid unicode code point"
  | .controlCharacter => "control character (\\u0000-\\u001F) found while parsing a string"
  | .keyNotString => "key must be a string"
  | .surrogateAlone => "lone leading surrogate in hex escape"
  | .surrogateBroken => "unexpected end of hex escape"
  | .commaTrailing => "trailing comma"
  | .charactersTrailing => "trailing characters"
  | .nestedTooDeeply => "recursion limit exceeded"

/-- What stood where something else was asked for. -/
inductive Found where
  | null
  | bool (b : Bool)
  | whole (n : Int)
  | real (x : Decimal.Binary64)
  | str (s : String)
  | sequence
  | map
  deriving Repr, DecidableEq

def Found.message : Found → String
  | .null => "null"
  | .bool b => "boolean `" ++ (if b then "true" else "false") ++ "`"
  | .whole n => "integer `" ++ toString n ++ "`"
  | .real x => "floating point `" ++ x.text ++ "`"
  | .str s => "string " ++ Text.quoted s
  | .sequence => "sequence"
  | .map => "map"

def Number.found : Number → Found
  | .whole n _ => .whole n
  | .real x => .real x

def found : Json → Found
  | .null => .null
  | .bool b => .bool b
  | .num n => n.found
  | .str s => .str s
  | .arr _ => .sequence
  | .obj _ => .map

/-- Why a value was not read. -/
inductive DecodeError where
  | malformed (m : Malformation)
  | wrongType (found : Found) (expected : String)
  | wrongValue (found : Found) (expected : String)
  | wrongLength (length : Nat) (expected : String)
  | unknownVariant (name : String) (known : List String)
  | missingField (name : String)
  | duplicateField (name : String)
  | refused (reason : String)
  deriving Repr, DecidableEq

/-- The choice among names, in words. -/
def oneOf : List String → String
  | [] => "there are no variants"
  | [a] => "expected `" ++ a ++ "`"
  | [a, b] => "expected `" ++ a ++ "` or `" ++ b ++ "`"
  | names => "expected one of " ++ ", ".intercalate (names.map fun n => "`" ++ n ++ "`")

def DecodeError.message : DecodeError → String
  | .malformed m => m.message
  | .wrongType f e => "invalid type: " ++ f.message ++ ", expected " ++ e
  | .wrongValue f e => "invalid value: " ++ f.message ++ ", expected " ++ e
  | .wrongLength n e => "invalid length " ++ toString n ++ ", expected " ++ e
  | .unknownVariant name known => "unknown variant `" ++ name ++ "`, " ++ oneOf known
  | .missingField name => "missing field `" ++ name ++ "`"
  | .duplicateField name => "duplicate field `" ++ name ++ "`"
  | .refused reason => reason

end PlatformLink.Json
