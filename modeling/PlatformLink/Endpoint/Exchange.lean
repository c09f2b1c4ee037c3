import PlatformLink.Error
import PlatformLink.Web.Message

/-!
# Exchanges

A transport answers a request with a response, fails, or never answers. Calls over it run one after
the other on its state; a call that fails or waits goes no further, and what was sent stays sent.

A script is a transport that replays answers in their order and records the requests it sees.
-/

namespace PlatformLink.Endpoint

open Web (Request Response HeaderName HeaderValue)

/-- Why a call goes no further. -/
inductive Stop where
  | failed (e : LinkError)
  | waiting
  deriving Repr, DecidableEq

/-- What is done over a transport with states `σ`. -/
abbrev Call (σ : Type) := ExceptT Stop (StateM σ)

namespace Call

variable {σ α : Type}

/-- A result that needs no transport. -/
def ofOutcome : Outcome α → Call σ α
  | .ok x => pure x
  | .error e => throw (.failed e)

/-- What a call gives, and the state it leaves. -/
def perform (c : Call σ α) (s : σ) : Except Stop α × σ :=
  c.run s

theorem perform_pure (x : α) (s : σ) : (pure x : Call σ α).perform s = (.ok x, s) := rfl

end Call

abbrev Transport (σ : Type) := Request → Call σ Response

/-- A function that rewrites a request before it is sent, or fails. -/
abbrev RequestMiddleware := Request → Outcome Request

/-- A function that rewrites a response before it is looked at, or fails. -/
abbrev ResponseMiddleware := Response → Outcome Response

/-- Passes a value through functions in their order, up to the first that fails. -/
def passThrough {α : Type} : List (α → Outcome α) → α → Outcome α
  | [], x => .ok x
  | f :: rest, x => f x >>= passThrough rest

/-- A header that is added to every request, unless the request already carries it. -/
structure FixedHeader where
  name : HeaderName
  value : HeaderValue
  deriving Repr, DecidableEq

namespace FixedHeader

/-- The name is looked at before the value. -/
def read (name value : String) : Except Web.HeaderFault FixedHeader := do
  return ⟨← HeaderName.parse name, ← HeaderValue.parse value⟩

def new (name value : String) : Outcome FixedHeader :=
  (read name value).mapError fun fault => .validation (.header fault)

/-- The header by which calls are correlated across services. -/
def correlationId (id : String) : Outcome FixedHeader :=
  new HeaderName.correlationId.text id

def addTo (h : FixedHeader) (hs : Web.Headers) : Web.Headers :=
  hs.insertIfAbsent h.name h.value

def middleware (h : FixedHeader) : RequestMiddleware :=
  fun r => .ok { r with headers := h.addTo r.headers }

end FixedHeader

/-- One answer of a script. -/
inductive Answer where
  | respond (r : Response)
  | fail (e : LinkError)
  | hang

structure Script where
  answers : List Answer
  seen : List Request

namespace Script

/-- What is answered when the script is used up. -/
def standard : Response := ⟨204, [], []⟩

def new (answers : List Answer) : Script := ⟨answers, []⟩

/-- The answer that is next. -/
def next (s : Script) : Except Stop Response :=
  match s.answers with
  | [] => .ok standard
  | .respond r :: _ => .ok r
  | .fail e :: _ => .error (.failed e)
  | .hang :: _ => .error .waiting

def transport : Transport Script := fun r s =>
  (s.next, ⟨s.answers.drop 1, s.seen ++ [r]⟩)

end Script

end PlatformLink.Endpoint
