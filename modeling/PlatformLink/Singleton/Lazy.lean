import PlatformLink.Error

/-!
# Lazy singletons

A shared value that is made on first use. A caller first looks without locking; if there is nothing
it takes the lock and looks again, and only then runs the factory. What the factory makes is
published before the lock is released; a factory that fails or panics leaves nothing behind, so that
the next caller tries again.

One atomic step of one caller is `LazyCell.advance`. A caller that runs alone goes through the same
steps, and `LazyCell.get` is that run. Where the lock is free and the factory does not panic there
is always a result, and `LazyCell.getAlone` is the same run without its steps.
-/

namespace PlatformLink.Singleton

/-- How a run of a factory ends. -/
inductive RunEnd (α : Type) where
  | made (x : α)
  | failed (e : LinkError)
  | panicked
  deriving Repr, DecidableEq

def RunEnd.ofOutcome {α : Type} : Outcome α → RunEnd α
  | .ok x => .made x
  | .error e => .failed e

/-- A factory may look at a state of its own and change it. -/
abbrev Factory (σ α : Type) := σ → RunEnd α × σ

/-- A factory that does not panic. -/
def factoryOf {σ α : Type} (make : σ → Outcome α × σ) : Factory σ α :=
  fun s => (.ofOutcome (make s).1, (make s).2)

/-- A published value, with the number of the run that made it. -/
structure Instance (α : Type) where
  run : Nat
  value : α
  deriving Repr, DecidableEq

/-- What a caller gets. -/
inductive GetResult (α : Type) where
  | ok (i : Instance α)
  | failed (e : LinkError)
  | panicked
  deriving Repr, DecidableEq

def GetResult.ofOutcome {α : Type} : Outcome (Instance α) → GetResult α
  | .ok i => .ok i
  | .error e => .failed e

/-- What the callers share: the factory's state, what is published, who holds the lock, and how many
runs were begun. -/
structure LazyCell (σ α : Type) where
  factoryState : σ
  published : Option (Instance α)
  holder : Option Nat
  runs : Nat
  deriving Repr, DecidableEq

/-- Where a caller stands. -/
inductive Stage (α : Type) where
  | reading
  | locking
  | checking
  | running
  | publishing (i : Instance α)
  | unlocking (r : GetResult α)
  | finished (r : GetResult α)
  deriving Repr, DecidableEq

namespace LazyCell

variable {σ α : Type}

def new (s : σ) : LazyCell σ α := ⟨s, none, none, 0⟩

def isInitialized (c : LazyCell σ α) : Bool :=
  c.published.isSome

/-- What a run that has ended leads to; the run is the last that was begun. -/
def afterRun (c : LazyCell σ α) : RunEnd α → Stage α
  | .made x => .publishing ⟨c.runs, x⟩
  | .failed e => .unlocking (.failed e)
  | .panicked => .unlocking .panicked

/-- One step of the caller `me`. A caller that waits for the lock stays where it is. -/
def advance (factory : Factory σ α) (me : Nat) (c : LazyCell σ α) :
    Stage α → LazyCell σ α × Stage α
  | .reading =>
    match c.published with
    | some i => (c, .finished (.ok i))
    | none => (c, .locking)
  | .locking =>
    match c.holder with
    | some _ => (c, .locking)
    | none => ({ c with holder := some me }, .checking)
  | .checking =>
    match c.published with
    | some i => (c, .unlocking (.ok i))
    | none => ({ c with runs := c.runs + 1 }, .running)
  | .running =>
    ({ c with factoryState := (factory c.factoryState).2 }, c.afterRun (factory c.factoryState).1)
  | .publishing i =>
    match c.published with
    | some j => (c, .unlocking (.ok j))
    | none => ({ c with published := some i }, .unlocking (.ok i))
  | .unlocking r => ({ c with holder := none }, .finished r)
  | .finished r => (c, .finished r)

/-- Steps of one caller with nobody in between. -/
def advanceMany (factory : Factory σ α) (me : Nat) : Nat → LazyCell σ α × Stage α →
    LazyCell σ α × Stage α
  | 0, s => s
  | n + 1, s => advanceMany factory me n (advance factory me s.1 s.2)

/-- The most steps that a caller takes who does not wait. -/
def stepsAlone : Nat := 6

/-- A caller that runs alone; there is no result while another holds the lock. -/
def get (factory : Factory σ α) (c : LazyCell σ α) : Option (GetResult α) × LazyCell σ α :=
  match advanceMany factory 0 stepsAlone (c, .reading) with
  | (c, .finished r) => (some r, c)
  | (c, _) => (none, c)

/-- What a caller gets that meets nobody, from a factory that does not panic. -/
def getAlone (make : σ → Outcome α × σ) (c : LazyCell σ α) :
    Outcome (Instance α) × LazyCell σ α :=
  match c.published with
  | some i => (.ok i, c)
  | none =>
    match make c.factoryState with
    | (.ok x, s) => (.ok ⟨c.runs + 1, x⟩, ⟨s, some ⟨c.runs + 1, x⟩, c.holder, c.runs + 1⟩)
    | (.error e, s) => (.error e, ⟨s, none, c.holder, c.runs + 1⟩)

theorem getAlone_of_published (make : σ → Outcome α × σ) {c : LazyCell σ α} {i : Instance α}
    (h : c.published = some i) : c.getAlone make = (.ok i, c) := by
  simp only [getAlone, h]

theorem getAlone_of_made {make : σ → Outcome α × σ} {c : LazyCell σ α} {x : α} {s : σ}
    (h : c.published = none) (hmake : make c.factoryState = (.ok x, s)) :
    c.getAlone make =
      (.ok ⟨c.runs + 1, x⟩, ⟨s, some ⟨c.runs + 1, x⟩, c.holder, c.runs + 1⟩) := by
  simp only [getAlone, h, hmake]

theorem getAlone_of_failed {make : σ → Outcome α × σ} {c : LazyCell σ α} {e : LinkError} {s : σ}
    (h : c.published = none) (hmake : make c.factoryState = (.error e, s)) :
    c.getAlone make = (.error e, ⟨s, none, c.holder, c.runs + 1⟩) := by
  simp only [getAlone, h, hmake]

/-- Where the lock is free, the steps lead to what is got alone. -/
theorem get_factoryOf (make : σ → Outcome α × σ) {c : LazyCell σ α} (h : c.holder = none) :
    c.get (factoryOf make) = (some (.ofOutcome (c.getAlone make).1), (c.getAlone make).2) := by
  obtain ⟨s, published, holder, runs⟩ := c
  subst h
  cases published with
  | some i => rfl
  | none =>
    rcases hmake : make s with ⟨e | x, t⟩ <;>
      simp [get, stepsAlone, advanceMany, advance, factoryOf, getAlone, hmake, afterRun,
        RunEnd.ofOutcome, GetResult.ofOutcome]

/-- The cell before a factory in another state. -/
def withState {τ : Type} (c : LazyCell σ α) (t : τ) : LazyCell τ α :=
  ⟨t, c.published, c.holder, c.runs⟩

/-- The text for programmers; `typeName` names the type of the value. -/
def debugText (typeName : String) (c : LazyCell σ α) : String :=
  "LazySingleton \x7b type: " ++ Text.quoted typeName ++ ", initialized: " ++
    (if c.isInitialized then "true" else "false") ++ " \x7d"

end LazyCell

/-- Callers of one cell, numbered by their places. -/
structure Callers (σ α : Type) where
  cell : LazyCell σ α
  stages : List (Stage α)
  deriving Repr, DecidableEq

namespace Callers

variable {σ α : Type}

/-- One step of the caller at a place. -/
def step (factory : Factory σ α) (s : Callers σ α) (i : Nat) : Callers σ α :=
  match s.stages[i]? with
  | some stage =>
    ⟨(s.cell.advance factory i stage).1, s.stages.set i (s.cell.advance factory i stage).2⟩
  | none => s

/-- Steps in the order of a schedule. -/
def run (factory : Factory σ α) (s : Callers σ α) (schedule : List Nat) : Callers σ α :=
  schedule.foldl (step factory) s

/-- The results of those who have finished. -/
def results (s : Callers σ α) : List (GetResult α) :=
  s.stages.filterMap fun
    | .finished r => some r
    | _ => none

/-- Callers who begin at once, each taking its turn until all have finished. -/
def together (factory : Factory σ α) (c : LazyCell σ α) (count : Nat) : Callers σ α :=
  run factory ⟨c, List.replicate count .reading⟩
    ((List.range (LazyCell.stepsAlone * (count + 1))).flatMap fun _ => List.range count)

end Callers

end PlatformLink.Singleton
