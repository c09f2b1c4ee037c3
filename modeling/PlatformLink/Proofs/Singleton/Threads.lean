import Mathlib.Logic.Function.Basic
import PlatformLink.Singleton.Lazy

/-!
# Threads over a lazy singleton

Any number of threads make calls on one cell, each thread one call after the other. A schedule says
who moves next and what a thread between two calls asks for, so that the runs of all schedules are
all interleavings of the atomic steps of all calls. The history records what happened, in its order:
the begin and the end of each run of the factory, and the answer of each call.

`Move` says once what a step can do; every invariant of threads is a case analysis over it.
-/

namespace PlatformLink.Singleton

/-- What a thread may ask of a cell. -/
inductive LazyCall where
  | get
  | getIfInitialized
  | isInitialized
  deriving Repr, DecidableEq

inductive LazyEvent (α : Type) where
  | began (thread : Nat)
  | ended (thread : Nat) (e : RunEnd α)
  | got (thread : Nat) (r : GetResult α)
  | looked (thread : Nat) (i : Option (Instance α))
  | asked (thread : Nat) (answer : Bool)
  deriving Repr, DecidableEq

/-- What is scheduled next: a thread begins a call, or goes one step on in its call. -/
inductive LazyAction where
  | call (thread : Nat) (c : LazyCall)
  | advance (thread : Nat)
  deriving Repr, DecidableEq

/-- What a call gets whose run made nothing. -/
def RunEnd.loss? {α : Type} : RunEnd α → Option (GetResult α)
  | .made _ => none
  | .failed e => some (.failed e)
  | .panicked => some .panicked

namespace LazyEvent

variable {α : Type}

def thread : LazyEvent α → Nat
  | began t | ended t _ | got t _ | looked t _ | asked t _ => t

def isBegin : LazyEvent α → Bool
  | began _ => true
  | _ => false

/-- Whether a run ended with a value. -/
def isSuccess : LazyEvent α → Bool
  | ended _ (.made _) => true
  | _ => false

/-- Whether a run ended without a value. -/
def isLoss : LazyEvent α → Bool
  | ended _ (.made _) => false
  | ended _ _ => true
  | _ => false

/-- The instance that a call gave back. -/
def instance? : LazyEvent α → Option (Instance α)
  | got _ (.ok i) => some i
  | looked _ i => i
  | _ => none

/-- Whether a call found the cell initialized, where its answer tells. -/
def seen? : LazyEvent α → Option Bool
  | got _ (.ok _) => some true
  | looked _ i => some i.isSome
  | asked _ b => some b
  | _ => none

end LazyEvent

/-- The threads over one cell. A thread without a stage is between two calls. -/
structure Threads (σ α : Type) where
  cell : LazyCell σ α
  stage : Nat → Option (Stage α)
  history : List (LazyEvent α)

/-- A call that is finished leaves its thread between two calls. -/
def Stage.unfinished? {α : Type} : Stage α → Option (Stage α)
  | .finished _ => none
  | st => some st

/-- Whether a caller at this stage is inside the lock. -/
def Stage.isInside {α : Type} : Stage α → Bool
  | .checking | .running | .publishing _ | .unlocking _ => true
  | .reading | .locking | .finished _ => false

namespace Threads

variable {σ α : Type}

def new (start : σ) : Threads σ α :=
  ⟨LazyCell.new start, fun _ => none, []⟩

/-- What a step from one stage to another adds to the history. -/
def eventsOf (thread : Nat) (e : RunEnd α) : Stage α → Stage α → List (LazyEvent α)
  | .checking, .running => [.began thread]
  | .running, _ => [.ended thread e]
  | _, .finished r => [.got thread r]
  | _, _ => []

/-- The threads after a step of one of them, which now stands at `st` and adds `events`. -/
def moved (s : Threads σ α) (cell : LazyCell σ α) (t : Nat) (st : Option (Stage α))
    (events : List (LazyEvent α)) : Threads σ α :=
  ⟨cell, Function.update s.stage t st, s.history ++ events⟩

@[simp] theorem moved_cell (s : Threads σ α) (cell : LazyCell σ α) (t : Nat)
    (st : Option (Stage α)) (events : List (LazyEvent α)) :
    (s.moved cell t st events).cell = cell := rfl

@[simp] theorem moved_history (s : Threads σ α) (cell : LazyCell σ α) (t : Nat)
    (st : Option (Stage α)) (events : List (LazyEvent α)) :
    (s.moved cell t st events).history = s.history ++ events := rfl

@[simp] theorem moved_stage_self (s : Threads σ α) (cell : LazyCell σ α) (t : Nat)
    (st : Option (Stage α)) (events : List (LazyEvent α)) :
    (s.moved cell t st events).stage t = st := by
  simp [moved]

theorem moved_stage_of_ne (s : Threads σ α) (cell : LazyCell σ α) {t u : Nat}
    (st : Option (Stage α)) (events : List (LazyEvent α)) (h : u ≠ t) :
    (s.moved cell t st events).stage u = s.stage u := by
  simp [moved, h]

/-- One step of a thread in its call. -/
def advance (factory : Factory σ α) (s : Threads σ α) (t : Nat) : Threads σ α :=
  match s.stage t with
  | none => s
  | some st =>
    let next := s.cell.advance factory t st
    s.moved next.1 t next.2.unfinished?
      (eventsOf t (factory s.cell.factoryState).1 st next.2)

/-- A thread between two calls begins one. To look without forcing is a single step. -/
def call (s : Threads σ α) (t : Nat) (c : LazyCall) : Threads σ α :=
  match s.stage t, c with
  | some _, _ => s
  | none, .get => { s with stage := Function.update s.stage t (some .reading) }
  | none, .getIfInitialized => { s with history := s.history ++ [.looked t s.cell.published] }
  | none, .isInitialized => { s with history := s.history ++ [.asked t s.cell.isInitialized] }

def step (factory : Factory σ α) (s : Threads σ α) : LazyAction → Threads σ α
  | .call t c => s.call t c
  | .advance t => s.advance factory t

def run (factory : Factory σ α) (s : Threads σ α) (schedule : List LazyAction) : Threads σ α :=
  schedule.foldl (step factory) s

theorem run_append (factory : Factory σ α) (s : Threads σ α) (a b : List LazyAction) :
    s.run factory (a ++ b) = (s.run factory a).run factory b := by
  simp [run]

theorem run_concat (factory : Factory σ α) (s : Threads σ α) (a : List LazyAction)
    (x : LazyAction) : s.run factory (a ++ [x]) = (s.run factory a).step factory x := by
  simp [run]

/-- The events of one thread. -/
def own (s : Threads σ α) (t : Nat) : List (LazyEvent α) :=
  s.history.filter fun e => e.thread == t

/-- Whether every thread is between two calls. -/
def Quiescent (s : Threads σ α) : Prop :=
  ∀ t, s.stage t = none

/-- What a step can do, one constructor for each atomic step of a call. -/
inductive Move (factory : Factory σ α) (s : Threads σ α) : Threads σ α → Prop where
  | start (t : Nat) (h : s.stage t = none) : Move factory s (s.moved s.cell t (some .reading) [])
  | look (t : Nat) (h : s.stage t = none) :
      Move factory s (s.moved s.cell t none [.looked t s.cell.published])
  | ask (t : Nat) (h : s.stage t = none) :
      Move factory s (s.moved s.cell t none [.asked t s.cell.isInitialized])
  | readFound (t : Nat) (i : Instance α) (h : s.stage t = some .reading)
      (hp : s.cell.published = some i) : Move factory s (s.moved s.cell t none [.got t (.ok i)])
  | readNothing (t : Nat) (h : s.stage t = some .reading) (hp : s.cell.published = none) :
      Move factory s (s.moved s.cell t (some .locking) [])
  | lock (t : Nat) (h : s.stage t = some .locking) (hh : s.cell.holder = none) :
      Move factory s (s.moved { s.cell with holder := some t } t (some .checking) [])
  | checkFound (t : Nat) (i : Instance α) (h : s.stage t = some .checking)
      (hp : s.cell.published = some i) :
      Move factory s (s.moved s.cell t (some (.unlocking (.ok i))) [])
  | checkNothing (t : Nat) (h : s.stage t = some .checking) (hp : s.cell.published = none) :
      Move factory s
        (s.moved { s.cell with runs := s.cell.runs + 1 } t (some .running) [.began t])
  | runMade (t : Nat) (x : α) (h : s.stage t = some .running)
      (he : (factory s.cell.factoryState).1 = .made x) :
      Move factory s
        (s.moved { s.cell with factoryState := (factory s.cell.factoryState).2 } t
          (some (.publishing ⟨s.cell.runs, x⟩)) [.ended t (.made x)])
  | runLost (t : Nat) (e : RunEnd α) (r : GetResult α) (h : s.stage t = some .running)
      (he : (factory s.cell.factoryState).1 = e) (hr : e.loss? = some r) :
      Move factory s
        (s.moved { s.cell with factoryState := (factory s.cell.factoryState).2 } t
          (some (.unlocking r)) [.ended t e])
  | publish (t : Nat) (i : Instance α) (h : s.stage t = some (.publishing i))
      (hp : s.cell.published = none) :
      Move factory s
        (s.moved { s.cell with published := some i } t (some (.unlocking (.ok i))) [])
  | publishTaken (t : Nat) (i j : Instance α) (h : s.stage t = some (.publishing i))
      (hp : s.cell.published = some j) :
      Move factory s (s.moved s.cell t (some (.unlocking (.ok j))) [])
  | unlock (t : Nat) (r : GetResult α) (h : s.stage t = some (.unlocking r)) :
      Move factory s (s.moved { s.cell with holder := none } t none [.got t r])
  | rest (t : Nat) (r : GetResult α) (h : s.stage t = some (.finished r)) :
      Move factory s (s.moved s.cell t none [.got t r])

theorem moved_stay (s : Threads σ α) (t : Nat) : s.moved s.cell t (s.stage t) [] = s := by
  simp [moved]

theorem call_eq_or_move (factory : Factory σ α) (s : Threads σ α) (t : Nat) (c : LazyCall) :
    s.call t c = s ∨ Move factory s (s.call t c) := by
  cases h : s.stage t with
  | some st =>
    left
    simp [call, h]
  | none =>
    right
    cases c with
    | get =>
      have hm : Move factory s (s.moved s.cell t (some .reading) []) := Move.start t h
      simpa [call, moved, h] using hm
    | getIfInitialized =>
      have hm : Move factory s (s.moved s.cell t none [.looked t s.cell.published]) :=
        Move.look t h
      rw [moved, ← h, Function.update_eq_self] at hm
      simpa [call, h] using hm
    | isInitialized =>
      have hm : Move factory s (s.moved s.cell t none [.asked t s.cell.isInitialized]) :=
        Move.ask t h
      rw [moved, ← h, Function.update_eq_self] at hm
      simpa [call, h] using hm

/-- What a step of a call makes of the threads, where the step of the cell is known. -/
theorem advance_eq_moved {factory : Factory σ α} {s : Threads σ α} {t : Nat} {st st' : Stage α}
    {cell : LazyCell σ α} (h : s.stage t = some st)
    (ha : s.cell.advance factory t st = (cell, st')) :
    s.advance factory t =
      s.moved cell t st'.unfinished?
        (eventsOf t (factory s.cell.factoryState).1 st st') := by
  simp [advance, h, ha]

theorem advance_eq_or_move (factory : Factory σ α) (s : Threads σ α) (t : Nat) :
    s.advance factory t = s ∨ Move factory s (s.advance factory t) := by
  cases h : s.stage t with
  | none =>
    left
    simp [advance, h]
  | some st =>
    cases st with
    | reading =>
      right
      cases hp : s.cell.published with
      | none =>
        rw [advance_eq_moved h (by rw [LazyCell.advance, hp])]
        exact Move.readNothing t h hp
      | some i =>
        rw [advance_eq_moved h (by rw [LazyCell.advance, hp])]
        exact Move.readFound t i h hp
    | locking =>
      cases hh : s.cell.holder with
      | none =>
        right
        rw [advance_eq_moved h (by rw [LazyCell.advance, hh])]
        exact Move.lock t h hh
      | some u =>
        left
        rw [advance_eq_moved h (by rw [LazyCell.advance, hh])]
        have hs := s.moved_stay t
        rw [h] at hs
        exact hs
    | checking =>
      right
      cases hp : s.cell.published with
      | none =>
        have ha : s.cell.advance factory t .checking =
            ({ s.cell with runs := s.cell.runs + 1 }, .running) := by
          simp [LazyCell.advance, hp]
        rw [advance_eq_moved h ha]
        exact Move.checkNothing t h hp
      | some i =>
        rw [advance_eq_moved h (by rw [LazyCell.advance, hp])]
        exact Move.checkFound t i h hp
    | running =>
      right
      rw [advance_eq_moved h rfl]
      cases he : (factory s.cell.factoryState).1 with
      | made x => exact Move.runMade t x h he
      | failed e => exact Move.runLost t _ _ h he rfl
      | panicked => exact Move.runLost t _ _ h he rfl
    | publishing i =>
      right
      cases hp : s.cell.published with
      | none =>
        rw [advance_eq_moved h (by rw [LazyCell.advance, hp])]
        exact Move.publish t i h hp
      | some j =>
        rw [advance_eq_moved h (by rw [LazyCell.advance, hp])]
        exact Move.publishTaken t i j h hp
    | unlocking r =>
      right
      rw [advance_eq_moved h rfl]
      exact Move.unlock t r h
    | finished r =>
      right
      rw [advance_eq_moved h rfl]
      exact Move.rest t r h

/-- A step changes nothing, or it is one of the moves. -/
theorem step_eq_or_move (factory : Factory σ α) (s : Threads σ α) (a : LazyAction) :
    s.step factory a = s ∨ Move factory s (s.step factory a) := by
  cases a with
  | call t c => exact call_eq_or_move factory s t c
  | advance t => exact advance_eq_or_move factory s t

/-- What every move keeps holds after every run. -/
theorem run_induction {factory : Factory σ α} {P : Threads σ α → Prop}
    (keep : ∀ s s', P s → Move factory s s' → P s') {s : Threads σ α} (h : P s)
    (schedule : List LazyAction) : P (s.run factory schedule) := by
  induction schedule generalizing s with
  | nil => exact h
  | cons a rest ih =>
    apply ih
    rcases step_eq_or_move factory s a with heq | hm
    · rw [heq]
      exact h
    · exact keep s _ h hm

end Threads

end PlatformLink.Singleton
