import PlatformLink.Endpoint.Exchange
import PlatformLink.Endpoint.Root
import PlatformLink.Text.Redaction
import PlatformLink.Text.Whole

/-!
# Clients

A client addresses resources by path segments under its root. Sending a request runs in a fixed
order: the request is prepared, passes the request middleware, goes to the transport once, and the
response passes the response middleware before its status decides. The first stage that fails
decides instead.

What a response says about an error is redacted before it becomes part of one.
-/

namespace PlatformLink.Endpoint

open Web (Url Request Response HeaderName HeaderValue Method)

structure Client (σ : Type) where
  root : Url
  tenant : Option Tenant
  credentials : Option Credentials
  transport : Transport σ
  requestMiddleware : List RequestMiddleware
  responseMiddleware : List ResponseMiddleware

/-- How long to wait before the next try, where a response says so in whole seconds. -/
def retryAfter (r : Response) : Option Duration := do
  let v ← r.headers.get? .retryAfter
  let v ← if v.isVisible then some v else none
  let n ← Text.uint64? (Text.trim v.text)
  return .ofSeconds n.toNat

/-- Only a response of success goes on; any other status is an error. -/
def checkStatus (r : Response) : Outcome Response :=
  if r.isSuccess then .ok r
  else
    let text := Text.redact r.text
    if r.status = 401 then .error .unauthenticated
    else if r.status = 404 then .error (.notFound (.reported text))
    else if r.status = 409 then .error (.conflict (.reported text))
    else if r.status = 429 then .error (.rateLimited (retryAfter r))
    else .error (.api r.status text none)

/-- Reads the body of a response. -/
def decodeBody {α : Type} (c : Json.Codec α) (r : Response) : Outcome α :=
  (c.decodeOctets r.body).mapError fun e =>
    .parse (.body e) (some (Text.redact r.text)) ⟨none, some e.message⟩

namespace Client

variable {σ α β : Type}

/-- A client over a transport. -/
def new (baseUrl : String) (tenant : Option Tenant) (credentials : Option Credentials)
    (transport : Transport σ) : Outcome (Client σ) := do
  return ⟨← Endpoint.root baseUrl tenant, tenant, credentials, transport, [], []⟩

def withCredentials (c : Client σ) (credentials : Credentials) : Client σ :=
  { c with credentials := some credentials }

def addRequestMiddleware (c : Client σ) (m : RequestMiddleware) : Client σ :=
  { c with requestMiddleware := c.requestMiddleware ++ [m] }

def addResponseMiddleware (c : Client σ) (m : ResponseMiddleware) : Client σ :=
  { c with responseMiddleware := c.responseMiddleware ++ [m] }

def hasCredentials (c : Client σ) : Bool :=
  c.credentials.isSome

/-- The URL of a resource. -/
def urlFor (c : Client σ) (segments : List String) : Url :=
  (c.root.extendPath? segments).getD c.root

def request (c : Client σ) (method : Method) (segments : List String) : Request :=
  ⟨method, c.urlFor segments, [], none⟩

def jsonMediaType : HeaderValue := ⟨"application/json"⟩

/-- Asks for JSON unless the request says otherwise, and authorizes the request. -/
def prepare (c : Client σ) (r : Request) : Outcome Request :=
  let r := { r with headers := r.headers.insertIfAbsent .accept jsonMediaType }
  match c.credentials with
  | none => .ok r
  | some credentials =>
    match HeaderValue.parse credentials.authorizationHeader with
    | .ok v => .ok { r with headers := r.headers.insert .authorization v }
    | .error _ => .error (.configuration .credentials)

/-- Sends a request; only a response of success is given back. -/
def send (c : Client σ) (r : Request) : Call σ Response := do
  let r ← Call.ofOutcome (c.prepare r)
  let r ← Call.ofOutcome (passThrough c.requestMiddleware r)
  let response ← c.transport r
  let response ← Call.ofOutcome (passThrough c.responseMiddleware response)
  Call.ofOutcome (checkStatus response)

def sendJson (c : Client σ) (codec : Json.Codec α) (r : Request) : Call σ α := do
  Call.ofOutcome (decodeBody codec (← c.send r))

def sendEmpty (c : Client σ) (r : Request) : Call σ Unit := do
  let _ ← c.send r

def getJson (c : Client σ) (codec : Json.Codec α) (segments : List String) : Call σ α :=
  c.sendJson codec (c.request .get segments)

def postJson (c : Client σ) (codec : Json.Codec α) (segments : List String) (body : Json) :
    Call σ α :=
  c.sendJson codec ((c.request .post segments).withBody body)

def putJson (c : Client σ) (codec : Json.Codec α) (segments : List String) (body : Json) :
    Call σ α :=
  c.sendJson codec ((c.request .put segments).withBody body)

def post (c : Client σ) (segments : List String) (body : Json) : Call σ Unit :=
  c.sendEmpty ((c.request .post segments).withBody body)

def put (c : Client σ) (segments : List String) (body : Json) : Call σ Unit :=
  c.sendEmpty ((c.request .put segments).withBody body)

def delete (c : Client σ) (segments : List String) : Call σ Unit :=
  c.sendEmpty (c.request .delete segments)

/-- The text for programmers; it shows no token. -/
def debugText (c : Client σ) : String :=
  "RestClient \x7b root: " ++ Text.quoted c.root.text ++ ", tenant: " ++
    (match c.tenant with
      | some t => "Some(" ++ t.debugText ++ ")"
      | none => "None") ++
    ", credentials: " ++
    (match c.credentials with
      | some cr => "Some(" ++ cr.debugText ++ ")"
      | none => "None") ++ " \x7d"

end Client

end PlatformLink.Endpoint
