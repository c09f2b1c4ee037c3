import PlatformLink.Json.View
import PlatformLink.Text.Utf8
import PlatformLink.Web.Header
import PlatformLink.Web.Url.Basic

/-!
# Requests and responses

A request has a JSON value for its body, or none; a response has octets.
-/

namespace PlatformLink.Web

structure Method where
  text : String
  deriving Repr, DecidableEq

namespace Method

def get : Method := ⟨"GET"⟩

def post : Method := ⟨"POST"⟩

def put : Method := ⟨"PUT"⟩

def delete : Method := ⟨"DELETE"⟩

end Method

/-- Headers as a value. -/
def headersJson (hs : Headers) : Json :=
  .arr (hs.sorted.map fun h => .ofStrings [h.1, h.2])

structure Request where
  method : Method
  url : Url
  headers : Headers
  body : Option Json

namespace Request

/-- Adds a pair to the query. -/
def query (r : Request) (name value : String) : Request :=
  { r with url := r.url.appendQuery name value }

/-- Sets a header. -/
def header (r : Request) (name value : String) : Except HeaderFault Request := do
  let n ← HeaderName.parse name
  let v ← HeaderValue.parse value
  return { r with headers := r.headers.insert n v }

def withBody (r : Request) (body : Json) : Request :=
  { r with body := some body }

/-- The request as a value, for a record of requests. -/
def toJson (r : Request) : Json :=
  .object ([("method", .str r.method.text), ("url", .str r.url.text),
    ("headers", headersJson r.headers)] ++
    match r.body with
    | some b => [("body", b)]
    | none => [])

end Request

structure Response where
  status : UInt16
  headers : Headers
  body : Text.Octets

namespace Response

def isSuccess (r : Response) : Bool :=
  200 ≤ r.status && r.status < 300

/-- The body as text, with a replacement for what is not UTF-8. -/
def text (r : Response) : String :=
  Text.decodeLossy r.body

/-- The response as a value, with its body as text. -/
def toJson (r : Response) : Json :=
  .object [("status", .ofNat r.status.toNat), ("text", .str r.text),
    ("headers", headersJson r.headers)]

end Response

end PlatformLink.Web
