import PlatformLink.Proofs.Event.Slots

/-!
# Runs of a channel

The calls to publish are numbered in the order in which they begin, and each has a token. Whoever
waits in line is given its turn in any order, may give up without an answer, and finds its token
cancelled or not. `ChannelRun` keeps the channel together with what can be seen from outside: the
calls, their answers and the events that were received. `ChannelMove` says once what a step can do.
-/

namespace PlatformLink.Event

inductive ChannelStep where
  | publish (token : Nat) (event : Json)
  | cancel (token : Nat)
  /-- A publisher that waits is given its turn. -/
  | resume (call : Nat)
  /-- A publisher that waits goes without an answer. -/
  | abandon (call : Nat)
  | receive
  | close
  | drop

structure ChannelRun where
  channel : Channel
  /-- The tokens and events of the calls. -/
  calls : List (Nat × Json)
  cancelled : List Nat
  /-- The calls that were answered, in the order of their answers. -/
  answers : List (Nat × Outcome Unit)
  received : List Json
  /-- The receiver is gone. -/
  gone : Bool

namespace ChannelRun

/-- A channel that nothing was asked of yet. -/
def new (c : Channel) : ChannelRun :=
  ⟨c, [], [], [], [], false⟩

def token? (r : ChannelRun) (call : Nat) : Option Nat :=
  r.calls[call]?.map (·.1)

def event? (r : ChannelRun) (call : Nat) : Option Json :=
  r.calls[call]?.map (·.2)

/-- The token of a call is cancelled. -/
def isCancelled (r : ChannelRun) (call : Nat) : Bool :=
  (r.token? call).any r.cancelled.contains

/-- What comes of a call that is given its turn: perhaps an answer, and a channel. -/
def answering (r : ChannelRun) (call : Nat) (turn : Option (Outcome Unit) × Channel) : ChannelRun :=
  { r with
    channel := turn.2
    answers := r.answers ++ (turn.1.map (call, ·)).toList }

def step (r : ChannelRun) : ChannelStep → ChannelRun
  | .publish token event =>
    answering { r with calls := r.calls ++ [(token, event)] } r.calls.length
      (r.channel.publish r.calls.length event (r.cancelled.contains token))
  | .cancel token => { r with cancelled := token :: r.cancelled }
  | .resume call => r.answering call (r.channel.resume call (r.isCancelled call))
  | .abandon call => { r with channel := r.channel.leave call }
  | .receive =>
    { r with
      channel := r.channel.receive.2
      received := r.received ++ r.channel.receive.1.toList }
  | .close => { r with channel := r.channel.close }
  | .drop => { r with channel := r.channel.drop, gone := true }

def run (r : ChannelRun) (steps : List ChannelStep) : ChannelRun :=
  steps.foldl step r

/-- The calls that were answered with success, in the order of their answers. -/
def accepted (r : ChannelRun) : List Nat :=
  r.answers.filterMap fun a => match a.2 with
    | .ok () => some a.1
    | .error _ => none

def acceptedEvents (r : ChannelRun) : List Json :=
  r.accepted.filterMap r.event?

end ChannelRun

/-! ## What a step can do -/

/-- Why a call fails: its token was cancelled, or else the channel is closed. -/
def FailsWith (cancelled closed : Bool) (e : LinkError) : Prop :=
  cancelled = true ∧ e = .cancelled ∨
    cancelled = false ∧ closed = true ∧ (.error e : Outcome Unit) = Channel.refusal

/-- A run before a step, the step, and the run after it. -/
inductive ChannelMove (r : ChannelRun) : ChannelStep → ChannelRun → Prop where
  /-- A call fails as soon as it begins. -/
  | fail (token : Nat) (event : Json) (e : LinkError)
      (he : FailsWith (r.cancelled.contains token) r.channel.closed e) :
      ChannelMove r (.publish token event)
        { r with
          calls := r.calls ++ [(token, event)]
          answers := r.answers ++ [(r.calls.length, .error e)] }
  /-- A call finds room. -/
  | accept (token : Nat) (event : Json) (hopen : r.channel.closed = false)
      (hroom : r.channel.hasRoom = true) :
      ChannelMove r (.publish token event)
        { r with
          channel := { r.channel with buffer := r.channel.buffer ++ [event] }
          calls := r.calls ++ [(token, event)]
          answers := r.answers ++ [(r.calls.length, .ok ())] }
  /-- A call begins to wait. -/
  | wait (token : Nat) (event : Json) (hopen : r.channel.closed = false)
      (hroom : r.channel.hasRoom = false) :
      ChannelMove r (.publish token event)
        { r with
          channel := { r.channel with
            line := r.channel.line ++ [⟨r.calls.length, event, false⟩] }
          calls := r.calls ++ [(token, event)] }
  | cancel (token : Nat) :
      ChannelMove r (.cancel token) { r with cancelled := token :: r.cancelled }
  /-- A call that waits fails. -/
  | giveUp (w : Waiter) (hw : w ∈ r.channel.line) (e : LinkError)
      (he : FailsWith (r.isCancelled w.id) r.channel.closed e) :
      ChannelMove r (.resume w.id)
        { r with
          channel := r.channel.leave w.id
          answers := r.answers ++ [(w.id, .error e)] }
  /-- A call that waits has a slot. -/
  | complete (w : Waiter) (hw : w ∈ r.channel.line) (hkept : r.isCancelled w.id = false)
      (hopen : r.channel.closed = false) (hgranted : w.granted = true) :
      ChannelMove r (.resume w.id)
        { r with
          channel := { r.channel with
            buffer := r.channel.buffer ++ [w.event]
            line := r.channel.line.filter (·.id ≠ w.id) }
          answers := r.answers ++ [(w.id, .ok ())] }
  | abandon (call : Nat) :
      ChannelMove r (.abandon call) { r with channel := r.channel.leave call }
  | receive (event : Json) (rest : List Json) (hbuffer : r.channel.buffer = event :: rest) :
      ChannelMove r .receive
        { r with
          channel := Channel.settle { r.channel with buffer := rest }
          received := r.received ++ [event] }
  | close : ChannelMove r .close { r with channel := r.channel.close }
  | drop : ChannelMove r .drop { r with channel := r.channel.drop, gone := true }
  /-- A call that waits has no slot. -/
  | stillWait (w : Waiter) (hw : w ∈ r.channel.line) (hkept : r.isCancelled w.id = false)
      (hopen : r.channel.closed = false) (hungranted : w.granted = false) :
      ChannelMove r (.resume w.id) r
  /-- Nobody waits under that number. -/
  | nobody (call : Nat) (hcall : ∀ w ∈ r.channel.line, w.id ≠ call) : ChannelMove r (.resume call) r
  /-- Nothing is there to be received. -/
  | nothing (hbuffer : r.channel.buffer = []) : ChannelMove r .receive r

namespace ChannelRun

theorem move_publish (r : ChannelRun) (token : Nat) (event : Json) :
    ChannelMove r (.publish token event) (r.step (.publish token event)) := by
  rw [step, Channel.publish]
  split
  next hcancelled => exact .fail token event _ (.inl ⟨hcancelled, rfl⟩)
  next hkept =>
  split
  next hclosed => exact .fail token event _ (.inr ⟨Bool.eq_false_iff.mpr hkept, hclosed, rfl⟩)
  next hopen =>
  have hopen := Bool.eq_false_iff.mpr hopen
  split
  next hroom => exact .accept token event hopen hroom
  next hroom =>
    have hwait := ChannelMove.wait token event hopen (Bool.eq_false_iff.mpr hroom)
    simpa [answering] using hwait

theorem move_resume (r : ChannelRun) (call : Nat) :
    ChannelMove r (.resume call) (r.step (.resume call)) := by
  have hstay : r.answering call (none, r.channel) = r := by simp [answering]
  rw [step, Channel.resume]
  split
  next hnobody =>
    rw [hstay]
    exact .nobody call (by simpa using hnobody)
  next w hfound =>
  obtain rfl : w.id = call := by simpa using List.find?_some hfound
  have hw := List.mem_of_find?_eq_some hfound
  split
  next hcancelled => exact .giveUp w hw _ (.inl ⟨hcancelled, rfl⟩)
  next hkept =>
  have hkept := Bool.eq_false_iff.mpr hkept
  split
  next hclosed => exact .giveUp w hw _ (.inr ⟨hkept, hclosed, rfl⟩)
  next hopen =>
  have hopen := Bool.eq_false_iff.mpr hopen
  split
  next hgranted => exact .complete w hw hkept hopen hgranted
  next hungranted =>
    rw [hstay]
    exact .stillWait w hw hkept hopen (Bool.eq_false_iff.mpr hungranted)

theorem move_receive (r : ChannelRun) : ChannelMove r .receive (r.step .receive) := by
  rw [step, Channel.receive]
  split
  next hbuffer => simpa using ChannelMove.nothing hbuffer
  next event rest hbuffer => exact .receive event rest hbuffer

theorem move_step (r : ChannelRun) (a : ChannelStep) : ChannelMove r a (r.step a) := by
  cases a with
  | publish token event => exact r.move_publish token event
  | cancel token => exact .cancel token
  | resume call => exact r.move_resume call
  | abandon call => exact .abandon call
  | receive => exact r.move_receive
  | close => exact .close
  | drop => exact .drop

/-- What holds at the beginning and is kept by every move holds after every run. -/
theorem run_induction {P : ChannelRun → Prop} {r : ChannelRun} (h : P r)
    (hmove : ∀ r a r', P r → ChannelMove r a r' → P r') (steps : List ChannelStep) :
    P (r.run steps) := by
  induction steps generalizing r with
  | nil => exact h
  | cons a rest ih => exact ih (hmove r a _ h (r.move_step a))

end ChannelRun

end PlatformLink.Event
