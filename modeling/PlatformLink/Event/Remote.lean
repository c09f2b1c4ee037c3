import PlatformLink.Endpoint.Client
import PlatformLink.Event.Cancellation
import PlatformLink.Event.Metadata

/-!
# Publishing over a client

An event is posted to the resource `Events`. A token that is cancelled before the call keeps it from
being sent; one that is cancelled while the call waits ends it.
-/

namespace PlatformLink.Event

open Endpoint (Call Client Stop)

def resource : List String := ["Events"]

/-- Posts an event. -/
def publishRemote {σ : Type} (c : Client σ) (token : Cancellation) (event : Json) : Call σ Unit :=
  match token with
  | .before => throw (.failed .cancelled)
  | .never => c.post resource event
  | .during => tryCatch (c.post resource event) fun
    | .waiting => throw (.failed .cancelled)
    | stop => throw stop

end PlatformLink.Event

namespace PlatformLink

/-- Hands an event with its metadata to a publisher; an event that cannot carry metadata is not
handed on. -/
def Event.publishBy {σ : Type} (e : Event) (publish : Json → Endpoint.Call σ Unit) :
    Endpoint.Call σ Unit := do
  publish (← Endpoint.Call.ofOutcome e.published)

end PlatformLink
