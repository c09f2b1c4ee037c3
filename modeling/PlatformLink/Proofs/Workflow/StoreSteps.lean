import Mathlib.Logic.Function.Basic
import PlatformLink.Proofs.Endpoint.Recording
import PlatformLink.Proofs.Histories
import PlatformLink.Proofs.Workflow.SummaryTable

/-!
# Steps on one store in memory

Any number of clients call one table. Creating, updating and reading are single steps. What creates
or updates is a step that creates and, where the key was taken, a second step that updates, and
between the two the other clients are served. A run keeps every step with its answer, in the order
in which the steps were taken, and every call that was answered.

`StoreStep.Takes` says all that a step can do to the table. A history tells what was last written
under a key, and from that alone what the next step is to be answered.
-/

namespace PlatformLink.Workflow

open Endpoint (Call Stop)

/-! ## Steps -/

/-- What is done on the table at once. -/
inductive StoreStep where
  | create (key : SummaryKey) (s : WorkflowSummary)
  | update (key : SummaryKey) (s : WorkflowSummary)
  | read (key : SummaryKey)

inductive StoreAnswer where
  | done (r : Except Stop Unit)
  | found (r : Except Stop (Option WorkflowSummary))

namespace StoreAnswer

def written : StoreAnswer := .done (.ok ())

def conflict (key : SummaryKey) : StoreAnswer :=
  .done (.error (.failed (.conflict (.summary key.text))))

def notFound (key : SummaryKey) : StoreAnswer :=
  .done (.error (.failed (.notFound (.summary key.text))))

end StoreAnswer

namespace StoreStep

def key : StoreStep → SummaryKey
  | create key _ | update key _ | read key => key

/-- A step of the store on the table. -/
def run (t : SummaryTable) : StoreStep → StoreAnswer × SummaryTable
  | create key s =>
    let r := (SummaryTable.store.create key s).perform t
    (.done r.1, r.2)
  | update key s =>
    let r := (SummaryTable.store.update key s).perform t
    (.done r.1, r.2)
  | read key =>
    let r := (SummaryTable.store.read key).perform t
    (.found r.1, r.2)

end StoreStep

/-- A step with its answer. -/
structure StoreEvent where
  step : StoreStep
  answer : StoreAnswer

/-- What an event wrote, and under which key. -/
def StoreEvent.written? : StoreEvent → Option (SummaryKey × WorkflowSummary)
  | ⟨.create key s, .done (.ok ())⟩ | ⟨.update key s, .done (.ok ())⟩ => some (key, s)
  | _ => none

/-- What an event wrote under a key. -/
def StoreEvent.writtenTo? (key : SummaryKey) (e : StoreEvent) : Option WorkflowSummary :=
  e.written?.bind fun w => if key = w.1 then some w.2 else none

theorem StoreEvent.writtenTo?_create (key other : SummaryKey) (s : WorkflowSummary) :
    (StoreEvent.mk (.create key s) .written).writtenTo? other =
      if other = key then some s else none := rfl

theorem StoreEvent.writtenTo?_update (key other : SummaryKey) (s : WorkflowSummary) :
    (StoreEvent.mk (.update key s) .written).writtenTo? other =
      if other = key then some s else none := rfl

theorem StoreEvent.writtenTo?_of_ne {e : StoreEvent} {key : SummaryKey} (h : key ≠ e.step.key) :
    e.writtenTo? key = none := by
  unfold writtenTo? written?
  split
  · exact if_neg h
  · exact if_neg h
  · rfl

theorem StoreEvent.isSome_writtenTo?_iff {e : StoreEvent} {key : SummaryKey} :
    (e.writtenTo? key).isSome = true ↔ e.written?.map (·.1) = some key := by
  unfold writtenTo?
  cases e.written? with
  | none => simp
  | some w => by_cases h : key = w.1 <;> simp [h, eq_comm]

/-! ## What a history tells -/

abbrev StoreHistory := List StoreEvent

namespace StoreHistory

/-- What was last written under a key. -/
def lastWritten (h : StoreHistory) (key : SummaryKey) : Option WorkflowSummary :=
  h.reverse.findSome? (StoreEvent.writtenTo? key)

/-- The keys that were ever written, each once. -/
def keys (h : StoreHistory) : List SummaryKey :=
  (h.filterMap fun e => e.written?.map (·.1)).dedup

/-- The answer to a step after a history. -/
def answer (h : StoreHistory) : StoreStep → StoreAnswer
  | .create key _ => if (h.lastWritten key).isSome then .conflict key else .written
  | .update key _ => if (h.lastWritten key).isSome then .written else .notFound key
  | .read key => .found (.ok (h.lastWritten key))

/-- Every step was answered as the history before it says. -/
def Honest (h : StoreHistory) : Prop :=
  ∀ before e after, h = before ++ e :: after → e.answer = answer before e.step

end StoreHistory

/-! ## Runs -/

inductive StoreCall where
  | create (key : SummaryKey) (s : WorkflowSummary)
  | update (key : SummaryKey) (s : WorkflowSummary)
  | read (key : SummaryKey)
  | createOrUpdate (key : SummaryKey) (s : WorkflowSummary)

namespace StoreCall

def firstStep : StoreCall → StoreStep
  | create key s | createOrUpdate key s => .create key s
  | update key s => .update key s
  | read key => .read key

/-- What is still to be updated after the answer to the first step. -/
def toUpdate? : StoreCall → StoreAnswer → Option (SummaryKey × WorkflowSummary)
  | createOrUpdate key s, .done (.error (.failed (.conflict _))) => some (key, s)
  | _, _ => none

end StoreCall

/-- A client calls the store, or takes the second step of its call. -/
inductive StoreAction where
  | call (client : Nat) (c : StoreCall)
  | goOn (client : Nat)

structure StoreReply where
  client : Nat
  call : StoreCall
  answer : StoreAnswer

structure StoreRun where
  table : SummaryTable
  /-- What the clients still have to update whose calls are not answered. -/
  pending : Nat → Option (SummaryKey × WorkflowSummary)
  history : StoreHistory
  replies : List StoreReply

namespace StoreRun

def empty : StoreRun := ⟨.empty, fun _ => none, [], []⟩

def take (r : StoreRun) (step : StoreStep) : StoreRun :=
  { r with
    table := (step.run r.table).2
    history := r.history ++ [⟨step, (step.run r.table).1⟩] }

def wait (r : StoreRun) (client : Nat) (rest : SummaryKey × WorkflowSummary) : StoreRun :=
  { r with pending := Function.update r.pending client (some rest) }

def reply (r : StoreRun) (client : Nat) (c : StoreCall) (answer : StoreAnswer) : StoreRun :=
  { r with
    pending := Function.update r.pending client none
    replies := r.replies ++ [⟨client, c, answer⟩] }

/-- A client that waits makes no other call, and one that does not wait has nothing to go on with.
-/
def act (r : StoreRun) : StoreAction → StoreRun
  | .call client c =>
    match r.pending client with
    | some _ => r
    | none =>
      let answer := (c.firstStep.run r.table).1
      match c.toUpdate? answer with
      | some rest => (r.take c.firstStep).wait client rest
      | none => (r.take c.firstStep).reply client c answer
  | .goOn client =>
    match r.pending client with
    | some (key, s) =>
      (r.take (.update key s)).reply client (.createOrUpdate key s)
        ((StoreStep.update key s).run r.table).1
    | none => r

def after (r : StoreRun) (actions : List StoreAction) : StoreRun :=
  actions.foldl act r

/-- What every action keeps holds after every run. -/
theorem run_induction {P : StoreRun → Prop} (keep : ∀ r a, P r → P (r.act a)) {r : StoreRun}
    (h : P r) (actions : List StoreAction) : P (r.after actions) := by
  induction actions generalizing r with
  | nil => exact h
  | cons a rest ih => exact ih (keep r a h)

end StoreRun

/-! ## What a step does -/

/-- What a step can do to a table: it writes one summary, or it changes nothing. -/
inductive StoreStep.Takes (t : SummaryTable) : StoreStep → StoreAnswer → SummaryTable → Prop where
  | created {key : SummaryKey} {s : WorkflowSummary} (h : t.get? key = none) :
      Takes t (.create key s) .written (t.create key s).2
  | taken {key : SummaryKey} {s old : WorkflowSummary} (h : t.get? key = some old) :
      Takes t (.create key s) (.conflict key) t
  | updated {key : SummaryKey} {s old : WorkflowSummary} (h : t.get? key = some old) :
      Takes t (.update key s) .written (t.update key s).2
  | missing {key : SummaryKey} {s : WorkflowSummary} (h : t.get? key = none) :
      Takes t (.update key s) (.notFound key) t
  | read (key : SummaryKey) : Takes t (.read key) (.found (.ok (t.get? key))) t

namespace StoreStep

variable {t : SummaryTable} {key : SummaryKey} {old : WorkflowSummary}

theorem run_create_of_none (h : t.get? key = none) (s : WorkflowSummary) :
    (create key s).run t = (.written, (t.create key s).2) := by
  rw [run, SummaryTable.perform_create_of_none h]
  rfl

theorem run_create_of_some (h : t.get? key = some old) (s : WorkflowSummary) :
    (create key s).run t = (.conflict key, t) := by
  rw [run, SummaryTable.perform_create_of_some h]
  rfl

theorem run_update_of_none (h : t.get? key = none) (s : WorkflowSummary) :
    (update key s).run t = (.notFound key, t) := by
  rw [run, SummaryTable.perform_update_of_none h]
  rfl

theorem run_update_of_some (h : t.get? key = some old) (s : WorkflowSummary) :
    (update key s).run t = (.written, (t.update key s).2) := by
  rw [run, SummaryTable.perform_update_of_some h]
  rfl

theorem takes_run (t : SummaryTable) (step : StoreStep) :
    Takes t step (step.run t).1 (step.run t).2 := by
  cases step with
  | create key s =>
    cases h : t.get? key with
    | none =>
      rw [run_create_of_none h]
      exact .created h
    | some old =>
      rw [run_create_of_some h]
      exact .taken h
  | update key s =>
    cases h : t.get? key with
    | none =>
      rw [run_update_of_none h]
      exact .missing h
    | some old =>
      rw [run_update_of_some h]
      exact .updated h
  | read key => exact .read key

namespace Takes

variable {t t' : SummaryTable} {step : StoreStep} {answer : StoreAnswer} {key : SummaryKey}

theorem get?_eq (h : Takes t step answer t') (key : SummaryKey) :
    t'.get? key = ((StoreEvent.mk step answer).writtenTo? key).or (t.get? key) := by
  cases h with
  | created h =>
    rw [SummaryTable.get?_create h, StoreEvent.writtenTo?_create]
    split_ifs <;> rfl
  | taken h => rfl
  | updated h =>
    rw [SummaryTable.get?_update h, StoreEvent.writtenTo?_update]
    split_ifs <;> rfl
  | missing h => rfl
  | read key => rfl

/-- Nothing that is held is taken away. -/
theorem isSome_get? (h : Takes t step answer t') (hkey : (t.get? key).isSome = true) :
    (t'.get? key).isSome = true := by
  rw [h.get?_eq, Option.isSome_or, hkey, Bool.or_true]

theorem get?_of_ne (h : Takes t step answer t') (hkey : key ≠ step.key) :
    t'.get? key = t.get? key := by
  rw [h.get?_eq, StoreEvent.writtenTo?_of_ne hkey, Option.none_or]

theorem nodup_keys (h : Takes t step answer t') (hnodup : t.keys.Nodup) : t'.keys.Nodup := by
  cases h with
  | created h =>
    rw [SummaryTable.keys_create h, ← List.concat_eq_append]
    exact hnodup.concat (SummaryTable.get?_eq_none_iff.mp h)
  | taken h => exact hnodup
  | updated h =>
    rw [SummaryTable.keys_update h]
    exact hnodup
  | missing h => exact hnodup
  | read key => exact hnodup

/-- The answer to a step is the one that a history tells which tells what the table holds. -/
theorem answer_eq {history : StoreHistory} (h : Takes t step answer t')
    (htable : ∀ key, t.get? key = history.lastWritten key) : answer = history.answer step := by
  cases h <;> simp_all [StoreHistory.answer]

end Takes

end StoreStep

/-! ## What a history tells after one more event -/

namespace StoreHistory

variable {h : StoreHistory} {e : StoreEvent} {key : SummaryKey}

theorem lastWritten_concat (h : StoreHistory) (e : StoreEvent) (key : SummaryKey) :
    lastWritten (h ++ [e]) key = (e.writtenTo? key).or (h.lastWritten key) := by
  simp only [lastWritten, List.reverse_append, List.reverse_singleton, List.singleton_append,
    List.findSome?_cons]
  cases e.writtenTo? key <;> rfl

theorem mem_keys_iff : key ∈ h.keys ↔ (h.lastWritten key).isSome = true := by
  simp only [keys, lastWritten, List.mem_dedup, List.mem_filterMap, List.findSome?_isSome_iff,
    List.mem_reverse, StoreEvent.isSome_writtenTo?_iff]

theorem honest_concat (hh : h.Honest) (he : e.answer = h.answer e.step) : Honest (h ++ [e]) :=
  forall_split_concat_iff.mpr ⟨hh, he⟩

end StoreHistory

end PlatformLink.Workflow
