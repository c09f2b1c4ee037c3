import PlatformLink.Error
import PlatformLink.Health
import PlatformLink.Json.Codec

/-!
# Queues in memory

A queue keeps its messages in the order in which they were accepted. A message becomes visible when
the clock reaches the reading given to it; what is not visible yet does not hold up what follows it.
Each operation that looks at the clock is given a reading, in nanoseconds.
-/

namespace PlatformLink.Storage

/-- The longest message, in octets. -/
def longestMessage : Nat := 65536

/-- Clock readings lie below this. -/
def clockEnd : Nat := Nat.pow 2 63 * Duration.perSecond

structure QueuedMessage where
  content : String
  visibleAt : Nat
  deriving Repr, DecidableEq

def QueuedMessage.isVisible (now : Nat) (m : QueuedMessage) : Bool :=
  m.visibleAt ≤ now

/-- The first `most` visible messages, and the messages that stay. -/
def takeVisible (now : Nat) : (most : Nat) → List QueuedMessage →
    List QueuedMessage × List QueuedMessage
  | _, [] => ([], [])
  | most, m :: rest =>
    if 0 < most ∧ m.isVisible now then
      let (taken, kept) := takeVisible now (most - 1) rest
      (m :: taken, kept)
    else
      let (taken, kept) := takeVisible now most rest
      (taken, m :: kept)

theorem takeVisible_nil (now most : Nat) : takeVisible now most [] = ([], []) := by
  cases most <;> rfl

/-- A queue has no messages, not even an empty list, until it is created. -/
structure MemoryQueue where
  name : String
  messages : Option (List QueuedMessage)
  deriving Repr, DecidableEq

namespace MemoryQueue

def new (name : String) : Outcome MemoryQueue := do
  let name ← (Validation.entityName "queue name" name).mapError LinkError.invalid
  return ⟨name, none⟩

def length (q : MemoryQueue) : Nat :=
  (q.messages.getD []).length

def isEmpty (q : MemoryQueue) : Bool :=
  q.length == 0

/-- What every operation on a queue that was not created gives. -/
def notCreated (q : MemoryQueue) : LinkError :=
  .notFound (.queue q.name)

/-- Creates the queue unless it exists, and tells whether it did. -/
def createIfAbsent (q : MemoryQueue) : Bool × MemoryQueue :=
  match q.messages with
  | some _ => (false, q)
  | none => (true, { q with messages := some [] })

/-- When a message added now with a delay becomes visible. -/
def visibleAt (now : Nat) (delay : Duration) : Outcome Nat :=
  if now + delay.nanoseconds < clockEnd then .ok (now + delay.nanoseconds)
  else .error (.validation (.delayOutOfRange delay))

/-- Adds a message; its length is looked at first, then its delay, then whether there is a queue. -/
def add (now : Nat) (content : String) (delay : Option Duration) (q : MemoryQueue) :
    Outcome Unit × MemoryQueue :=
  if longestMessage < Text.octetLength content then
    (.error (.validation (.messageTooLong (Text.octetLength content) longestMessage)), q)
  else
    match visibleAt now (delay.getD ⟨0⟩), q.messages with
    | .error e, _ => (.error e, q)
    | .ok _, none => (.error q.notCreated, q)
    | .ok t, some ms => (.ok (), { q with messages := some (ms ++ [⟨content, t⟩]) })

/-- Discards every message. -/
def clear (q : MemoryQueue) : Outcome Unit × MemoryQueue :=
  match q.messages with
  | none => (.error q.notCreated, q)
  | some _ => (.ok (), { q with messages := some [] })

/-- The visible messages, oldest first. -/
def peek (now : Nat) (q : MemoryQueue) : Outcome (List String) :=
  match q.messages with
  | none => .error q.notCreated
  | some ms => .ok ((ms.filter (·.isVisible now)).map (·.content))

/-- Takes at most `most` visible messages, oldest first. -/
def take (now most : Nat) (q : MemoryQueue) : Outcome (List String) × MemoryQueue :=
  match q.messages with
  | none => (.error q.notCreated, q)
  | some ms =>
    (.ok ((takeVisible now most ms).1.map (·.content)),
      { q with messages := some (takeVisible now most ms).2 })

def health (q : MemoryQueue) : HealthStatus :=
  match q.messages with
  | some _ => .healthy
  | none => .warning (Missing.queue q.name).message

instance : HealthCheck MemoryQueue := ⟨name, health⟩

/-- The text for programmers. -/
def debugText (q : MemoryQueue) : String :=
  "MemoryQueue \x7b name: " ++ Text.quoted q.name ++ " \x7d"

/-- Adds an item as its JSON text. -/
def addItem {α : Type} (codec : Json.Codec α) (now : Nat) (item : α) (delay : Option Duration)
    (q : MemoryQueue) : Outcome Unit × MemoryQueue :=
  q.add now (codec.write item) delay

/-- Reads an item that was added. -/
def decodeItem {α : Type} (codec : Json.Codec α) (q : MemoryQueue) (content : String) : Outcome α :=
  (codec.decode content).mapError fun e =>
    .parse (.item q.name e) none ⟨none, some e.message⟩

end MemoryQueue

end PlatformLink.Storage
