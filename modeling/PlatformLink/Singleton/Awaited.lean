import PlatformLink.Error

/-!
# Awaited singletons

A shared value whose factory takes time. One task at a time makes the value, and others wait in the
order in which they came. When a run fails, or the task that drives it is dropped, the next in line
begins a run of its own; once a value is there, all who wait get it.

A task is polled or dropped, in any order with others.
-/

namespace PlatformLink.Singleton

/-- A run of a factory: how often it suspends, and how it ends, if it does. -/
structure AwaitedRun (α : Type) where
  suspensions : Nat
  ending : Option (Outcome α)

/-- A factory may look at a state of its own and change it. -/
abbrev AwaitedFactory (σ α : Type) := σ → AwaitedRun α × σ

/-- A published value, with the number of the run that made it. -/
structure AwaitedInstance (α : Type) where
  run : Nat
  value : α
  deriving Repr, DecidableEq

/-- Where a task stands. -/
inductive TaskStage (α : Type) where
  | fresh
  | queued
  | driving (number : Nat) (r : AwaitedRun α)
  | finished (r : Outcome (AwaitedInstance α))
  | dropped

namespace TaskStage

variable {α : Type}

def result? : TaskStage α → Option (Outcome (AwaitedInstance α))
  | finished r => some r
  | _ => none

def isOver : TaskStage α → Bool
  | finished _ | dropped => true
  | _ => false

end TaskStage

/-- The cell and its tasks, which are numbered by their places. The permit to run the factory
belongs to at most one task; `line` are those who wait for it. -/
structure AwaitedCell (σ α : Type) where
  factoryState : σ
  published : Option (AwaitedInstance α)
  permit : Option Nat
  line : List Nat
  runs : Nat
  tasks : List (TaskStage α)

namespace AwaitedCell

variable {σ α : Type}

def new (s : σ) : AwaitedCell σ α := ⟨s, none, none, [], 0, []⟩

def isInitialized (c : AwaitedCell σ α) : Bool :=
  c.published.isSome

def setTask (c : AwaitedCell σ α) (i : Nat) (t : TaskStage α) : AwaitedCell σ α :=
  { c with tasks := c.tasks.set i t }

/-- A new task, and its place. -/
def spawn (c : AwaitedCell σ α) : Nat × AwaitedCell σ α :=
  (c.tasks.length, { c with tasks := c.tasks ++ [.fresh] })

/-- Gives the permit to the next in line. -/
def release (c : AwaitedCell σ α) : AwaitedCell σ α :=
  match c.line with
  | [] => { c with permit := none }
  | i :: rest => { c with permit := some i, line := rest }

/-- The task goes on with its run; a run that ends gives the permit up. -/
def drive (c : AwaitedCell σ α) (i number : Nat) (r : AwaitedRun α) : AwaitedCell σ α :=
  match r.suspensions, r.ending with
  | n + 1, ending => c.setTask i (.driving number ⟨n, ending⟩)
  | 0, none => c.setTask i (.driving number r)
  | 0, some (.ok x) =>
    ({ c with published := some ⟨number, x⟩ }.setTask i (.finished (.ok ⟨number, x⟩))).release
  | 0, some (.error e) => (c.setTask i (.finished (.error e))).release

/-- The holder of the permit begins a run. -/
def beginRun (factory : AwaitedFactory σ α) (c : AwaitedCell σ α) (i : Nat) : AwaitedCell σ α :=
  { c with factoryState := (factory c.factoryState).2, runs := c.runs + 1 }.drive i (c.runs + 1)
    (factory c.factoryState).1

/-- A task is given its turn. -/
def poll (factory : AwaitedFactory σ α) (c : AwaitedCell σ α) (i : Nat) : AwaitedCell σ α :=
  match c.tasks[i]? with
  | some .fresh =>
    match c.published, c.permit with
    | some x, _ => c.setTask i (.finished (.ok x))
    | none, none => { c with permit := some i }.beginRun factory i
    | none, some _ => { c with line := c.line ++ [i] }.setTask i .queued
  | some .queued =>
    match c.published with
    | some x =>
      let c := c.setTask i (.finished (.ok x))
      if c.permit = some i then c.release else { c with line := c.line.filter (· ≠ i) }
    | none => if c.permit = some i then c.beginRun factory i else c
  | some (.driving number r) => c.drive i number r
  | _ => c

/-- A task is dropped; a run that it drives is abandoned, and its place in line is given up. -/
def drop (c : AwaitedCell σ α) (i : Nat) : AwaitedCell σ α :=
  match c.tasks[i]? with
  | some (.finished _) | some .dropped | none => c
  | some _ =>
    let c := c.setTask i .dropped
    if c.permit = some i then c.release else { c with line := c.line.filter (· ≠ i) }

/-- Polls tasks in turn until each has finished or the rounds are over. -/
def pollAll (factory : AwaitedFactory σ α) : (rounds : Nat) → List Nat → AwaitedCell σ α →
    AwaitedCell σ α
  | 0, _, c => c
  | rounds + 1, tasks, c => pollAll factory rounds tasks (tasks.foldl (poll factory) c)

/-- Tasks that are run together; whoever has no result after the rounds is dropped. -/
def together (factory : AwaitedFactory σ α) (rounds count : Nat) (c : AwaitedCell σ α) :
    List (Option (Outcome (AwaitedInstance α))) × AwaitedCell σ α :=
  let first := c.tasks.length
  let places := (List.range count).map (first + ·)
  let c := pollAll factory rounds places { c with tasks := c.tasks ++ List.replicate count .fresh }
  (places.map fun i => (c.tasks[i]?).bind TaskStage.result?, places.foldl drop c)

/-- The text for programmers; `typeName` names the type of the value. -/
def debugText (typeName : String) (c : AwaitedCell σ α) : String :=
  "AsyncLazySingleton \x7b type: " ++ Text.quoted typeName ++ ", initialized: " ++
    (if c.isInitialized then "true" else "false") ++ " \x7d"

end AwaitedCell

end PlatformLink.Singleton
