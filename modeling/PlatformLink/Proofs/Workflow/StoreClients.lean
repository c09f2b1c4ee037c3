import PlatformLink.Proofs.Workflow.StoreSteps

/-!
# Clients of one store in memory

No step takes a key away, so the second step of a call that creates or updates finds the key that
stood in the way of its first, whatever the other clients have done in between. What the clients
find is the map that the writes before tell of: each answer depends on the last write under its key
alone.
-/

namespace PlatformLink.Workflow

open Endpoint (Call)

/-! ## What every action keeps -/

namespace StoreCall

variable {t : SummaryTable} {c : StoreCall} {key : SummaryKey} {s : WorkflowSummary}

/-- A second step is left only for a key that is taken, and the first one changed nothing then. -/
theorem of_toUpdate?_eq_some (h : c.toUpdate? (c.firstStep.run t).1 = some (key, s)) :
    c = .createOrUpdate key s ∧ (t.get? key).isSome = true ∧ (c.firstStep.run t).2 = t := by
  cases c with
  | createOrUpdate k w =>
    rw [firstStep] at h ⊢
    cases hget : t.get? k with
    | none =>
      rw [StoreStep.run_create_of_none hget] at h
      cases h
    | some old =>
      rw [StoreStep.run_create_of_some hget] at h ⊢
      cases h
      exact ⟨rfl, by rw [hget]; rfl, rfl⟩
  | create | update | read => cases h

/-- What creates or updates has written if no second step is left. -/
theorem of_toUpdate?_eq_none
    (h : (createOrUpdate key s).toUpdate? ((StoreStep.create key s).run t).1 = none) :
    ((StoreStep.create key s).run t).1 = .written := by
  cases hget : t.get? key with
  | none => rw [StoreStep.run_create_of_none hget]
  | some old =>
    rw [StoreStep.run_create_of_some hget] at h
    cases h

end StoreCall

namespace StoreRun

/-- What holds after every run. -/
structure Sound (r : StoreRun) : Prop where
  table : ∀ key, r.table.get? key = r.history.lastWritten key
  nodup : r.table.keys.Nodup
  honest : r.history.Honest
  /-- Whoever has something to update will find the key. -/
  pending : ∀ client key s, r.pending client = some (key, s) → (r.table.get? key).isSome = true
  upserts : ∀ reply ∈ r.replies, ∀ key s, reply.call = .createOrUpdate key s →
    reply.answer = .written

variable {r : StoreRun}

theorem sound_empty : Sound empty where
  table _ := rfl
  nodup := List.nodup_nil
  honest before e after h := by simp [empty] at h
  pending client key s h := by cases h
  upserts reply h := by cases h

theorem Sound.take (h : r.Sound) (step : StoreStep) : (r.take step).Sound where
  table key := by
    have htakes := StoreStep.takes_run r.table step
    change (step.run r.table).2.get? key = StoreHistory.lastWritten (r.history ++ [_]) key
    rw [htakes.get?_eq, StoreHistory.lastWritten_concat, h.table]
  nodup := (StoreStep.takes_run r.table step).nodup_keys h.nodup
  honest :=
    StoreHistory.honest_concat h.honest ((StoreStep.takes_run r.table step).answer_eq h.table)
  pending client key s hpending :=
    (StoreStep.takes_run r.table step).isSome_get? (h.pending client key s hpending)
  upserts := h.upserts

theorem Sound.wait (h : r.Sound) (client : Nat) {key : SummaryKey} (s : WorkflowSummary)
    (hkey : (r.table.get? key).isSome = true) : (r.wait client (key, s)).Sound where
  table := h.table
  nodup := h.nodup
  honest := h.honest
  pending other k w hpending := by
    by_cases hother : other = client
    · subst hother
      simp [StoreRun.wait] at hpending
      obtain ⟨rfl, rfl⟩ := hpending
      exact hkey
    · simp [StoreRun.wait, hother] at hpending
      exact h.pending other k w hpending
  upserts := h.upserts

theorem Sound.reply (h : r.Sound) (client : Nat) {c : StoreCall} {answer : StoreAnswer}
    (hanswer : ∀ key s, c = .createOrUpdate key s → answer = .written) :
    (r.reply client c answer).Sound where
  table := h.table
  nodup := h.nodup
  honest := h.honest
  pending other key s hpending := by
    by_cases hother : other = client
    · simp [StoreRun.reply, hother] at hpending
    · simp [StoreRun.reply, hother] at hpending
      exact h.pending other key s hpending
  upserts reply hreply := by
    rcases List.mem_append.mp hreply with hreply | hreply
    · exact h.upserts reply hreply
    · rw [List.mem_singleton.mp hreply]
      exact hanswer

theorem Sound.act (h : r.Sound) (a : StoreAction) : (r.act a).Sound := by
  cases a with
  | call client c =>
    rw [StoreRun.act]
    cases r.pending client with
    | some rest => exact h
    | none =>
      dsimp only
      split
      next rest hrest =>
        obtain ⟨-, hkey, -⟩ := StoreCall.of_toUpdate?_eq_some hrest
        exact (h.take c.firstStep).wait client rest.2
          ((StoreStep.takes_run r.table c.firstStep).isSome_get? hkey)
      next hnone =>
        refine (h.take c.firstStep).reply client ?_
        rintro key s rfl
        exact StoreCall.of_toUpdate?_eq_none hnone
  | goOn client =>
    rw [StoreRun.act]
    split
    next key s hpending =>
      obtain ⟨old, hold⟩ := Option.isSome_iff_exists.mp (h.pending client key s hpending)
      refine (h.take (.update key s)).reply client fun _ _ _ => ?_
      rw [StoreStep.run_update_of_some hold]
    next => exact h

theorem sound_after (actions : List StoreAction) : (empty.after actions).Sound :=
  run_induction (fun _ a h => h.act a) sound_empty actions

/-! ## What no action takes away -/

theorem isSome_get?_act (r : StoreRun) (a : StoreAction) {key : SummaryKey}
    (h : (r.table.get? key).isSome = true) : ((r.act a).table.get? key).isSome = true := by
  have htake (step : StoreStep) : ((step.run r.table).2.get? key).isSome = true :=
    (StoreStep.takes_run r.table step).isSome_get? h
  cases a with
  | call client c =>
    rw [act]
    cases r.pending client with
    | some rest => exact h
    | none =>
      dsimp only
      split
      next => exact htake c.firstStep
      next => exact htake c.firstStep
  | goOn client =>
    rw [act]
    split
    next key s _ => exact htake (.update key s)
    next => exact h

theorem isSome_get?_after (r : StoreRun) (actions : List StoreAction) {key : SummaryKey}
    (h : (r.table.get? key).isSome = true) : ((r.after actions).table.get? key).isSome = true :=
  run_induction (fun r a => r.isSome_get?_act a) h actions

/-- Only the client itself goes on with its call. -/
theorem pending_after {client : Nat} {rest : SummaryKey × WorkflowSummary}
    (h : r.pending client = some rest) {actions : List StoreAction}
    (hactions : .goOn client ∉ actions) : (r.after actions).pending client = some rest := by
  induction actions generalizing r with
  | nil => exact h
  | cons a more ih =>
    refine ih ?_ fun hmem => hactions (List.mem_cons_of_mem a hmem)
    cases a with
    | call other c =>
      rw [act]
      by_cases hother : client = other
      · subst hother
        rw [h]
        exact h
      · cases r.pending other with
        | some _ => exact h
        | none =>
          dsimp only
          split
          · exact (Function.update_of_ne hother _ _).trans h
          · exact (Function.update_of_ne hother _ _).trans h
    | goOn other =>
      have hother : client ≠ other := by
        rintro rfl
        exact hactions List.mem_cons_self
      rw [act]
      split
      · exact (Function.update_of_ne hother _ _).trans h
      · exact h

end StoreRun

/-! ## The call as it is written -/

/-- The store as a client finds it whose call is interrupted: when it comes to update, the others
have left another table. -/
def SummaryTable.leftBy (others : SummaryTable) : SummaryStore SummaryTable where
  create := store.create
  update key s _ := (store.update key s).perform others
  read := store.read

namespace StoreRun

variable {r : StoreRun}

theorem perform_createOrUpdate_of_none {t : SummaryTable} {key : SummaryKey}
    (h : t.get? key = none) (s : WorkflowSummary) (others : SummaryTable) :
    ((SummaryTable.leftBy others).createOrUpdate key s).perform t =
      (.ok (), (t.create key s).2) := by
  rw [SummaryStore.createOrUpdate, Call.perform_tryCatch, SummaryTable.leftBy,
    SummaryTable.perform_create_of_none h]

theorem perform_createOrUpdate_of_some {t others : SummaryTable} {key : SummaryKey}
    {old other : WorkflowSummary} (h : t.get? key = some old)
    (hothers : others.get? key = some other) (s : WorkflowSummary) :
    ((SummaryTable.leftBy others).createOrUpdate key s).perform t =
      (.ok (), (others.update key s).2) := by
  rw [SummaryStore.createOrUpdate, Call.perform_tryCatch, SummaryTable.leftBy,
    SummaryTable.perform_create_of_some h]
  exact SummaryTable.perform_update_of_some hothers s

/-- The first step of a call that creates or updates. -/
def begin (r : StoreRun) (client : Nat) (key : SummaryKey) (s : WorkflowSummary) : StoreRun :=
  r.act (.call client (.createOrUpdate key s))

theorem begin_of_none {client : Nat} {key : SummaryKey} (hclient : r.pending client = none)
    (h : r.table.get? key = none) (s : WorkflowSummary) :
    r.begin client key s =
      (r.take (.create key s)).reply client (.createOrUpdate key s) .written := by
  rw [begin, act, hclient]
  dsimp only
  rw [StoreCall.firstStep, StoreStep.run_create_of_none h]
  rfl

theorem begin_of_some {client : Nat} {key : SummaryKey} {old : WorkflowSummary}
    (hclient : r.pending client = none) (h : r.table.get? key = some old) (s : WorkflowSummary) :
    r.begin client key s = (r.take (.create key s)).wait client (key, s) := by
  rw [begin, act, hclient]
  dsimp only
  rw [StoreCall.firstStep, StoreStep.run_create_of_some h]
  rfl

/-- What was begun in one table is ended in the table that the others leave. -/
theorem perform_createOrUpdate (r : StoreRun) {client : Nat} (hclient : r.pending client = none)
    (key : SummaryKey) (s : WorkflowSummary) {others : List StoreAction}
    (hothers : .goOn client ∉ others) :
    ((SummaryTable.leftBy ((r.begin client key s).after others).table).createOrUpdate key
        s).perform r.table =
      (.ok (), match (r.begin client key s).pending client with
        | none => (r.begin client key s).table
        | some _ => (((r.begin client key s).after others).act (.goOn client)).table) := by
  cases h : r.table.get? key with
  | none =>
    rw [perform_createOrUpdate_of_none h, begin_of_none hclient h]
    simp [StoreRun.reply, StoreRun.take, StoreStep.run_create_of_none h]
  | some old =>
    have hbegin := begin_of_some hclient h s
    have htable : (r.begin client key s).table.get? key = some old := by
      rw [hbegin]
      simpa [StoreRun.wait, StoreRun.take, StoreStep.run_create_of_some h] using h
    have hpending : (r.begin client key s).pending client = some (key, s) := by
      rw [hbegin]
      exact Function.update_self client (some (key, s)) r.pending
    obtain ⟨other, hother⟩ := Option.isSome_iff_exists.mp
      ((r.begin client key s).isSome_get?_after others (Option.isSome_of_eq_some htable))
    rw [perform_createOrUpdate_of_some h hother, hpending]
    dsimp only
    rw [act, pending_after hpending hothers]
    simp [StoreRun.reply, StoreRun.take, StoreStep.run_update_of_some hother]

end StoreRun

/-! ## The store under its clients -/

/-- A store that its clients find as a map to which keys are only added. -/
structure StoreRun.UpsertOnly (r : StoreRun) : Prop where
  created_iff : ∀ key s,
    ((SummaryTable.store.create key s).perform r.table).1 = .ok () ↔ r.table.get? key = none
  create_refused : ∀ key s, r.table.get? key ≠ none →
    (SummaryTable.store.create key s).perform r.table =
      (.error (.failed (.conflict (.summary key.text))), r.table)
  updated_iff : ∀ key s,
    ((SummaryTable.store.update key s).perform r.table).1 = .ok () ↔ r.table.get? key ≠ none
  update_refused : ∀ key s, r.table.get? key = none →
    (SummaryTable.store.update key s).perform r.table =
      (.error (.failed (.notFound (.summary key.text))), r.table)
  /-- Reading gives what was last written under the key, by whomever. -/
  read : ∀ key, (SummaryTable.store.read key).perform r.table =
    (.ok (r.history.lastWritten key), r.table)
  other_kept : ∀ (step : StoreStep) (key : SummaryKey), key ≠ step.key →
    (step.run r.table).2.get? key = r.table.get? key
  present_kept : ∀ actions key, r.table.get? key ≠ none →
    (r.after actions).table.get? key ≠ none
  size : r.table.size = r.history.keys.length
  /-- Every step so far was answered as the writes before it say. -/
  honest : r.history.Honest
  /-- Every call so far that creates or updates and was answered has succeeded. -/
  upserts : ∀ reply ∈ r.replies, ∀ key s, reply.call = .createOrUpdate key s →
    reply.answer = .written
  /-- One that is made now succeeds at once, or it has a second step to take. -/
  upsert_begun : ∀ client key s, r.pending client = none →
    (r.begin client key s).replies = r.replies ++ [⟨client, .createOrUpdate key s, .written⟩] ∨
      (r.begin client key s).pending client = some (key, s)
  /-- One that has a second step to take succeeds with it. -/
  upsert_ended : ∀ client key s, r.pending client = some (key, s) →
    (r.act (.goOn client)).replies = r.replies ++ [⟨client, .createOrUpdate key s, .written⟩]
  /-- The two steps are those of the call as it is written. -/
  upsert_steps : ∀ client key s others, r.pending client = none → .goOn client ∉ others →
    ((SummaryTable.leftBy ((r.begin client key s).after others).table).createOrUpdate key
        s).perform r.table =
      (.ok (), match (r.begin client key s).pending client with
        | none => (r.begin client key s).table
        | some _ => (((r.begin client key s).after others).act (.goOn client)).table)

namespace StoreRun

theorem Sound.size_eq {r : StoreRun} (h : r.Sound) : r.table.size = r.history.keys.length := by
  have hperm : r.table.keys.Perm r.history.keys := by
    refine (List.perm_ext_iff_of_nodup h.nodup (List.nodup_dedup _)).mpr fun key => ?_
    have htable : key ∈ r.table.keys ↔ (r.table.get? key).isSome = true := by
      rw [← not_iff_not, ← SummaryTable.get?_eq_none_iff, Bool.not_eq_true,
        Option.isSome_eq_false_iff, Option.isNone_iff_eq_none]
    exact htable.trans (h.table key ▸ StoreHistory.mem_keys_iff.symm)
  rw [SummaryTable.size_eq_length_keys, hperm.length_eq]

/-- Whatever the clients do, in whatever order their steps are taken. -/
theorem upsertOnly_after (actions : List StoreAction) : (empty.after actions).UpsertOnly := by
  have hsound := sound_after actions
  generalize empty.after actions = r at hsound
  constructor
  case created_iff =>
    intro key s
    cases h : r.table.get? key with
    | none => simp [SummaryTable.perform_create_of_none h]
    | some old => simp [SummaryTable.perform_create_of_some h]
  case create_refused =>
    intro key s h
    obtain ⟨old, hold⟩ := Option.ne_none_iff_exists'.mp h
    exact SummaryTable.perform_create_of_some hold s
  case updated_iff =>
    intro key s
    cases h : r.table.get? key with
    | none => simp [SummaryTable.perform_update_of_none h]
    | some old => simp [SummaryTable.perform_update_of_some h]
  case update_refused => exact fun key s h => SummaryTable.perform_update_of_none h s
  case read =>
    intro key
    rw [SummaryTable.perform_read, hsound.table]
  case other_kept => exact fun step key h => (StoreStep.takes_run r.table step).get?_of_ne h
  case present_kept =>
    intro more key h
    rw [← Option.isSome_iff_ne_none] at h ⊢
    exact r.isSome_get?_after more h
  case size => exact hsound.size_eq
  case honest => exact hsound.honest
  case upserts => exact hsound.upserts
  case upsert_begun =>
    intro client key s hclient
    cases h : r.table.get? key with
    | none =>
      rw [begin_of_none hclient h]
      exact .inl rfl
    | some old =>
      rw [begin_of_some hclient h]
      exact .inr (Function.update_self client _ _)
  case upsert_ended =>
    intro client key s hclient
    obtain ⟨old, hold⟩ := Option.isSome_iff_exists.mp (hsound.pending client key s hclient)
    rw [act, hclient]
    dsimp only
    rw [StoreStep.run_update_of_some hold]
    rfl
  case upsert_steps =>
    exact fun client key s others hclient hothers => r.perform_createOrUpdate hclient key s hothers

end StoreRun

end PlatformLink.Workflow
