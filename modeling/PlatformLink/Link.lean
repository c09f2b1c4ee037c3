import PlatformLink.Event.Remote
import PlatformLink.Singleton.Lazy
import PlatformLink.Workflow.SummaryStore

/-!
# Links

The entry point to the platform for one tenant. A link holds a client and what is built over it,
each in a cell of its own; each is made on first use and then kept, and everything is built over the
one client: the factory of each of the other cells asks the cell of the client. What cannot be made
is reported and tried again at the next use. Clones of a link share what it holds.
-/

namespace PlatformLink

open Endpoint (Call Client Transport RequestMiddleware ResponseMiddleware)
open PlatformLink.Singleton (Instance LazyCell)

inductive TlsVersion where
  | tls12
  deriving Repr, DecidableEq

/-- Settings of the transport that goes over the network. -/
structure TransportSettings where
  timeout : Duration
  leastTls : Option TlsVersion
  certVerification : Bool
  userAgent : String
  deriving Repr, DecidableEq

namespace TransportSettings

def standard : TransportSettings where
  timeout := .ofSeconds 100
  leastTls := some .tls12
  certVerification := true
  userAgent := "nexus-link-sdk/0.1.0"

/-- The agent is sent in a header. -/
def check (s : TransportSettings) : Outcome Unit :=
  match Web.HeaderValue.parse s.userAgent with
  | .ok _ => .ok ()
  | .error _ => .error (.configuration .transport)

theorem check_standard : standard.check = .ok () := by
  simp [check, standard, Web.HeaderValue.parse, Web.isHeaderValueChar]

end TransportSettings

/-- What a link needs to know of the platform and its tenant. -/
structure LinkSettings where
  baseUrl : String
  tenant : Option Tenant
  credentials : Option Credentials
  transport : TransportSettings
  deriving DecidableEq

namespace LinkSettings

def baseUrlSetting : String := "NEXUS_LINK_BASE_URL"

def organizationSetting : String := "NEXUS_LINK_ORGANIZATION"

def environmentSetting : String := "NEXUS_LINK_ENVIRONMENT"

def tokenSetting : String := "NEXUS_LINK_TOKEN"

def timeoutSetting : String := "NEXUS_LINK_TIMEOUT_SECS"

def new (baseUrl : String) : LinkSettings :=
  ⟨baseUrl, none, none, .standard⟩

/-- The base URL must be set to something. -/
def readBaseUrl : Option String → Outcome String
  | some s => if Text.isBlank s then .error (.configuration (.unset baseUrlSetting)) else .ok s
  | none => .error (.configuration (.unset baseUrlSetting))

/-- Organization and environment are set together or not at all. -/
def readTenant : Option String → Option String → Outcome (Option Tenant)
  | some organization, some environment => some <$> Tenant.new organization environment
  | none, none => .ok none
  | _, _ => .error (.configuration (.setTogether organizationSetting environmentSetting))

/-- An empty token is none. -/
def readCredentials : Option String → Option Credentials
  | some token => if token.isEmpty then none else some ⟨token⟩
  | none => none

def readTimeout : Option String → Outcome Duration
  | none => .ok TransportSettings.standard.timeout
  | some s =>
    match Text.uint64? (Text.trim s) with
    | some n => .ok (.ofSeconds n.toNat)
    | none => .error (.configuration (.notSeconds timeoutSetting))

/-- Settings by their names. -/
def ofLookup (lookup : String → Option String) : Outcome LinkSettings := do
  let baseUrl ← readBaseUrl (lookup baseUrlSetting)
  let tenant ← readTenant (lookup organizationSetting) (lookup environmentSetting)
  let timeout ← readTimeout (lookup timeoutSetting)
  return {
    baseUrl := baseUrl
    tenant := tenant
    credentials := readCredentials (lookup tokenSetting)
    transport := { TransportSettings.standard with timeout := timeout } }

end LinkSettings

/-- Everything from which a link builds its client. Where no transport is supplied the network
carries the requests. -/
structure LinkConfig (σ : Type) where
  settings : LinkSettings
  supplied : Option (Transport σ)
  network : Transport σ
  requestMiddleware : List RequestMiddleware
  responseMiddleware : List ResponseMiddleware

namespace LinkConfig

variable {σ : Type}

def transport (c : LinkConfig σ) : Outcome (Transport σ) :=
  match c.supplied with
  | some t => .ok t
  | none => do
    c.settings.transport.check
    return c.network

def client (c : LinkConfig σ) : Outcome (Client σ) := do
  let s := c.settings
  let client ← Client.new s.baseUrl s.tenant s.credentials (← c.transport)
  return { client with
    requestMiddleware := c.requestMiddleware
    responseMiddleware := c.responseMiddleware }

/-- The factory of the client; it looks at nothing but the configuration. -/
def make (c : LinkConfig σ) : Unit → Outcome (Client σ) × Unit :=
  fun s => (c.client, s)

def addRequestMiddleware (c : LinkConfig σ) (m : RequestMiddleware) : LinkConfig σ :=
  { c with requestMiddleware := c.requestMiddleware ++ [m] }

def addResponseMiddleware (c : LinkConfig σ) (m : ResponseMiddleware) : LinkConfig σ :=
  { c with responseMiddleware := c.responseMiddleware ++ [m] }

end LinkConfig

/-- What is built over the client. -/
inductive SubClient where
  | workflow
  | events
  | summaries
  deriving Repr, DecidableEq

/-- What a link has made so far. What is built over the client is known by the instance of the
client that it holds. -/
structure LinkCells (σ : Type) where
  rest : LazyCell Unit (Client σ)
  workflow : LazyCell Unit (Instance (Client σ))
  events : LazyCell Unit (Instance (Client σ))
  summaries : LazyCell Unit (Instance (Client σ))

namespace LinkCells

variable {σ : Type}

def empty : LinkCells σ := ⟨.new (), .new (), .new (), .new ()⟩

def get (cells : LinkCells σ) : SubClient → LazyCell Unit (Instance (Client σ))
  | .workflow => cells.workflow
  | .events => cells.events
  | .summaries => cells.summaries

def set (cells : LinkCells σ) (sub : SubClient) (c : LazyCell Unit (Instance (Client σ))) :
    LinkCells σ :=
  match sub with
  | .workflow => { cells with workflow := c }
  | .events => { cells with events := c }
  | .summaries => { cells with summaries := c }

def setRest (cells : LinkCells σ) (c : LazyCell Unit (Client σ)) : LinkCells σ :=
  { cells with rest := c }

@[simp] theorem get_empty (sub : SubClient) : (empty : LinkCells σ).get sub = .new () := by
  cases sub <;> rfl

@[simp] theorem rest_set (cells : LinkCells σ) (sub : SubClient)
    (c : LazyCell Unit (Instance (Client σ))) : (cells.set sub c).rest = cells.rest := by
  cases sub <;> rfl

@[simp] theorem rest_setRest (cells : LinkCells σ) (c : LazyCell Unit (Client σ)) :
    (cells.setRest c).rest = c := rfl

@[simp] theorem get_setRest (cells : LinkCells σ) (c : LazyCell Unit (Client σ))
    (sub : SubClient) : (cells.setRest c).get sub = cells.get sub := by
  cases sub <;> rfl

@[simp] theorem get_set_self (cells : LinkCells σ) (sub : SubClient)
    (c : LazyCell Unit (Instance (Client σ))) : (cells.set sub c).get sub = c := by
  cases sub <;> rfl

theorem get_set_of_ne (cells : LinkCells σ) {sub other : SubClient}
    (c : LazyCell Unit (Instance (Client σ))) (h : other ≠ sub) :
    (cells.set sub c).get other = cells.get other := by
  cases sub <;> cases other <;> first | rfl | exact absurd rfl h

/-- Whether the client was made. -/
def isConnected (cells : LinkCells σ) : Bool :=
  cells.rest.isInitialized

end LinkCells

structure Link (σ : Type) where
  config : LinkConfig σ
  cells : LinkCells σ

namespace Link

variable {σ : Type}

def new (config : LinkConfig σ) : Link σ := ⟨config, .empty⟩

def tenant (l : Link σ) : Option Tenant :=
  l.config.settings.tenant

/-- The client, made if there is none yet. -/
def restInstance (l : Link σ) : Outcome (Instance (Client σ)) × Link σ :=
  let r := l.cells.rest.getAlone l.config.make
  (r.1, { l with cells := l.cells.setRest r.2 })

/-- What is built over the client. Its factory asks the cell of the client, which is in another
state afterwards. -/
def subInstance (l : Link σ) (sub : SubClient) :
    Outcome (Instance (Instance (Client σ))) × Link σ :=
  let r := ((l.cells.get sub).withState l.cells.rest).getAlone
    fun rest => rest.getAlone l.config.make
  (r.1, { l with cells := (l.cells.setRest r.2.factoryState).set sub (r.2.withState ()) })

def rest (l : Link σ) : Outcome (Client σ) × Link σ :=
  (l.restInstance.1.map Instance.value, l.restInstance.2)

/-- The client that one of the others holds. -/
def access (l : Link σ) (sub : SubClient) : Outcome (Client σ) × Link σ :=
  ((l.subInstance sub).1.map fun i => i.value.value, (l.subInstance sub).2)

def workflow (l : Link σ) : Outcome (Workflow.Capability (Call σ)) × Link σ :=
  ((l.access .workflow).1.map Workflow.Remote.capability, (l.access .workflow).2)

def summaries (l : Link σ) : Outcome (Workflow.SummaryStore σ) × Link σ :=
  ((l.access .summaries).1.map Workflow.Remote.summaryStore, (l.access .summaries).2)

/-- What publishes events over the link. -/
def events (l : Link σ) : Outcome (Event.Cancellation → Json → Call σ Unit) × Link σ :=
  ((l.access .events).1.map Event.publishRemote, (l.access .events).2)

/-- The text for programmers. -/
def debugText (l : Link σ) : String :=
  "NexusLink \x7b tenant: " ++
    (match l.tenant with
      | some t => "Some(" ++ t.debugText ++ ")"
      | none => "None") ++
    ", rest: " ++ l.cells.rest.debugText "nexus_link_sdk::rest::RestClient" ++ " \x7d"

end Link

end PlatformLink
