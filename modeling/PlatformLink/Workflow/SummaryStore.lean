import PlatformLink.Workflow.Remote

/-!
# Summary stores

A store creates, updates and reads summaries by their keys. Creating and updating are steps of their
own; what creates or updates does the one and, only where the key was taken, the other.
-/

namespace PlatformLink.Workflow

open Endpoint (Call Client Stop)

structure SummaryStore (σ : Type) where
  create : SummaryKey → WorkflowSummary → Call σ Unit
  update : SummaryKey → WorkflowSummary → Call σ Unit
  read : SummaryKey → Call σ (Option WorkflowSummary)

/-- Creates a summary, or updates it where there is one. Every other error stays. -/
def SummaryStore.createOrUpdate {σ : Type} (store : SummaryStore σ) (key : SummaryKey)
    (s : WorkflowSummary) : Call σ Unit :=
  tryCatch (store.create key s) fun
    | .failed (.conflict _) => store.update key s
    | stop => throw stop

/-- The summaries held in memory. -/
structure SummaryTable where
  entries : List (SummaryKey × WorkflowSummary)

namespace SummaryTable

def empty : SummaryTable := ⟨[]⟩

def size (t : SummaryTable) : Nat :=
  t.entries.length

def isEmpty (t : SummaryTable) : Bool :=
  t.entries.isEmpty

def get? (t : SummaryTable) (key : SummaryKey) : Option WorkflowSummary :=
  (t.entries.find? (·.1 = key)).map (·.2)

/-- Adds a summary under a key that is free. -/
def create (key : SummaryKey) (s : WorkflowSummary) (t : SummaryTable) :
    Outcome Unit × SummaryTable :=
  match t.get? key with
  | some _ => (.error (.conflict (.summary key.text)), t)
  | none => (.ok (), ⟨t.entries ++ [(key, s)]⟩)

/-- Replaces the summary under a key that is taken. -/
def update (key : SummaryKey) (s : WorkflowSummary) (t : SummaryTable) :
    Outcome Unit × SummaryTable :=
  match t.get? key with
  | some _ => (.ok (), ⟨t.entries.map fun e => if e.1 = key then (key, s) else e⟩)
  | none => (.error (.notFound (.summary key.text)), t)

/-- A step on the table as a call. -/
def asCall {α : Type} (step : SummaryTable → Outcome α × SummaryTable) : Call SummaryTable α :=
  fun t => match step t with
    | (.ok x, t) => (.ok x, t)
    | (.error e, t) => (.error (.failed e), t)

def store : SummaryStore SummaryTable where
  create key s := asCall (create key s)
  update key s := asCall (update key s)
  read key := asCall fun t => (.ok (t.get? key), t)

end SummaryTable

namespace Remote

variable {σ : Type} (c : Client σ)

/-- The store over a client; where a summary is not found there is none. -/
def summaryStore : SummaryStore σ where
  create key s := do
    Call.ofOutcome (checkKey key)
    c.post (summaryPath key) (WorkflowSummary.codec.toJson s)
  update key s := do
    Call.ofOutcome (checkKey key)
    c.put (summaryPath key) (WorkflowSummary.codec.toJson s)
  read key := tryCatch (some <$> (summary c).read key) fun
    | .failed (.notFound _) => pure none
    | stop => throw stop

end Remote

end PlatformLink.Workflow
