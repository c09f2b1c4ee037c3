import PlatformLink.Event.Cancellation
import PlatformLink.Event.Metadata

/-!
# Event channels

A bounded channel between publishers and one receiver. An event is accepted when it is put into the
buffer. A publisher that finds no room waits in line; a slot that becomes free is granted to the
first in line, who puts its event there when it is next given its turn. Whoever finds its token
cancelled gives up, and gives back a slot that was granted. A closed channel accepts nothing, but
what it has accepted can still be received.
-/

namespace PlatformLink.Event

/-- A publisher that waits for room. -/
structure Waiter where
  id : Nat
  event : Json
  granted : Bool

structure Channel where
  capacity : Nat
  buffer : List Json
  line : List Waiter
  closed : Bool

namespace Channel

/-- The most slots that a channel can count. -/
def mostSlots : Nat := Nat.pow 2 61 - 1

/-- There is always room for one event. A channel of more slots than can be counted is not made. -/
def new? (capacity : Nat) : Option Channel :=
  if capacity ≤ mostSlots then some ⟨max capacity 1, [], [], false⟩ else none

def granted (c : Channel) : Nat :=
  (c.line.filter (·.granted)).length

/-- Whether a slot is neither taken nor granted. -/
def hasRoom (c : Channel) : Bool :=
  c.buffer.length + c.granted < c.capacity

/-- Grants a slot to the first who has none. -/
def grantFirst : List Waiter → List Waiter
  | [] => []
  | w :: rest => if w.granted then w :: grantFirst rest else { w with granted := true } :: rest

/-- Hands on a slot, if there is one. -/
def settle (c : Channel) : Channel :=
  if c.hasRoom then { c with line := grantFirst c.line } else c

def leave (c : Channel) (id : Nat) : Channel :=
  ({ c with line := c.line.filter (·.id ≠ id) }).settle

def refusal : Outcome Unit :=
  .error (.request .channelClosed none .unknown)

/-- A publisher begins; there is no result while it waits. A cancelled token comes before all
else. -/
def publish (c : Channel) (id : Nat) (event : Json) (cancelled : Bool) :
    Option (Outcome Unit) × Channel :=
  if cancelled then (some (.error .cancelled), c)
  else if c.closed then (some refusal, c)
  else if c.hasRoom then (some (.ok ()), { c with buffer := c.buffer ++ [event] })
  else (none, { c with line := c.line ++ [⟨id, event, false⟩] })

/-- A publisher that waits is given its turn. -/
def resume (c : Channel) (id : Nat) (cancelled : Bool) : Option (Outcome Unit) × Channel :=
  match c.line.find? (·.id == id) with
  | none => (none, c)
  | some w =>
    if cancelled then (some (.error .cancelled), c.leave id)
    else if c.closed then (some refusal, c.leave id)
    else if w.granted then
      (some (.ok ()), { c with
        buffer := c.buffer ++ [w.event]
        line := c.line.filter (·.id ≠ id) })
    else (none, c)

/-- A publisher that would wait gives up: its token is cancelled, or it goes without a result. -/
def tryPublish (c : Channel) (event : Json) (token : Cancellation) :
    Option (Outcome Unit) × Channel :=
  let id := (c.line.map (·.id)).foldl max 0 + 1
  match c.publish id event (token == .before) with
  | (some r, c) => (some r, c)
  | (none, c) => if token == .during then c.resume id true else (none, c.leave id)

/-- The next event, if there is one. -/
def receive (c : Channel) : Option Json × Channel :=
  match c.buffer with
  | [] => (none, c)
  | e :: rest => (some e, { c with buffer := rest }.settle)

/-- The receiver accepts no more. -/
def close (c : Channel) : Channel :=
  { c with closed := true }

/-- The receiver is gone, and what it had not received with it. -/
def drop (c : Channel) : Channel :=
  { c with closed := true, buffer := [] }

end Channel

end PlatformLink.Event
