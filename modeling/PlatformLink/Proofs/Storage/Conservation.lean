import PlatformLink.Proofs.Storage.Refusals

/-!
# A queue conserves its messages

What a call can do to the messages of a queue is said once, by `QueueMove`. From it follows that the
ledger tells of the queue (`Faithful`): what waits in the ledger is what is queued, and what the
ledger holds as delivered is what the takes gave. Together with what holds of every ledger, each
accepted message is at every moment in one place, and none is overtaken by a message that was
accepted later and becomes visible no earlier.
-/

namespace PlatformLink.Storage

/-! ## Taking -/

/-- What is kept are the messages of the tickets that are not due. -/
theorem takeVisible_snd {ts : List Ticket} (hts : ts.Nodup) (now most : Nat) :
    (takeVisible now most (ts.map (·.message))).2 =
      (ts.filter (· ∉ dueTickets now most ts)).map (·.message) := by
  induction ts generalizing most with
  | nil => simp [takeVisible_nil]
  | cons t rest ih =>
    obtain ⟨hnew, hrest⟩ := List.nodup_cons.mp hts
    have hnot : t ∉ dueTickets now most rest := fun hmem => hnew (dueTickets_sublist.subset hmem)
    rw [List.map_cons]
    cases hv : t.message.isVisible now with
    | false =>
      rw [takeVisible_cons_of_not_due (by simp [hv]), dueTickets_cons_of_hidden hv, ih hrest,
        List.filter_cons_of_pos (by simp [hnot]), List.map_cons]
    | true =>
      cases most with
      | zero =>
        rw [takeVisible_cons_of_not_due (by simp), ih hrest]
        simp [dueTickets_zero]
      | succ n =>
        have hkept : rest.filter (· ∉ t :: dueTickets now n rest) =
            rest.filter (· ∉ dueTickets now n rest) := by
          refine List.filter_congr fun u hu => ?_
          have hne : u ≠ t := fun heq => hnew (heq ▸ hu)
          simp [hne]
        rw [takeVisible_cons_of_due ⟨n.succ_pos, hv⟩, dueTickets_cons_of_visible hv,
          List.filter_cons_of_neg (by simp), hkept]
        exact ih hrest n

/-! ## What a call can do -/

/-- A queue before a call, what its observer sees of the call, and the queue after it. -/
inductive QueueMove (q : MemoryQueue) : QueueEffect → MemoryQueue → Prop where
  | accept (ms : List QueuedMessage) (m : QueuedMessage) (h : q.messages = some ms) :
      QueueMove q (.accepted m) { q with messages := some (ms ++ [m]) }
  | take (now most : Nat) (ms : List QueuedMessage) (h : q.messages = some ms) :
      QueueMove q (.taken now most ((takeVisible now most ms).1.map (·.content)))
        { q with messages := some (takeVisible now most ms).2 }
  | clear (ms : List QueuedMessage) (h : q.messages = some ms) :
      QueueMove q .cleared { q with messages := some [] }
  | create (h : q.messages = none) : QueueMove q .nothing { q with messages := some [] }
  | stay : QueueMove q .nothing q

theorem move_add (q : MemoryQueue) (now : Nat) (content : String) (delay : Option Duration) :
    QueueMove q
      (QueueEvent.effect ⟨.add now content delay, .done (q.add now content delay).1⟩)
      (q.add now content delay).2 := by
  cases h : (QueueCall.add now content delay).refusal? q.name q.messages.isSome with
  | some e =>
    rw [MemoryQueue.add_of_refusal h]
    exact .stay
  | none =>
    obtain ⟨ms, hq, -, hadd⟩ := MemoryQueue.add_of_accepted h
    rw [hadd]
    exact .accept ms _ hq

theorem move_respond (q : MemoryQueue) (c : QueueCall) :
    QueueMove q (QueueEvent.effect ⟨c, (q.respond c).1⟩) (q.respond c).2 := by
  cases c with
  | add now content delay => exact move_add q now content delay
  | peek now => exact .stay
  | length => exact .stay
  | create =>
    cases hq : q.messages with
    | none =>
      simp only [MemoryQueue.respond, MemoryQueue.createIfAbsent, hq]
      exact .create hq
    | some ms =>
      simp only [MemoryQueue.respond, MemoryQueue.createIfAbsent, hq]
      exact .stay
  | take now most =>
    cases hq : q.messages with
    | none =>
      simp only [MemoryQueue.respond, MemoryQueue.take, hq]
      exact .stay
    | some ms =>
      simp only [MemoryQueue.respond, MemoryQueue.take, hq]
      exact .take now most ms hq
  | clear =>
    cases hq : q.messages with
    | none =>
      simp only [MemoryQueue.respond, MemoryQueue.clear, hq]
      exact .stay
    | some ms =>
      simp only [MemoryQueue.respond, MemoryQueue.clear, hq]
      exact .clear ms hq

/-! ## The ledger tells of the queue -/

namespace QueueRun

def ledger (r : QueueRun) : Ledger :=
  Ledger.ofHistory r.history

theorem ledger_concat (r : QueueRun) (q : MemoryQueue) (e : QueueEvent) :
    ledger ⟨q, r.history ++ [e]⟩ = r.ledger.record e.effect :=
  Ledger.ofHistory_concat r.history e

theorem sound_ledger (r : QueueRun) : r.ledger.Sound :=
  Ledger.sound_ofHistory r.history

/-- What waits is what is queued, and what is held as delivered is what the takes gave. -/
structure Faithful (r : QueueRun) : Prop where
  queued : r.queue.messages.getD [] = r.ledger.waiting.map (·.message)
  delivered : r.ledger.delivered.map (·.map (·.message.content)) =
    r.history.filterMap (·.effect.contents?)

theorem faithful_new (name : String) : (new name).Faithful :=
  ⟨rfl, rfl⟩

/-- The contents that a take gives are those of the tickets that are due. -/
theorem contents_takeVisible {r : QueueRun} (h : r.Faithful) {ms : List QueuedMessage}
    (hms : r.queue.messages = some ms) (now most : Nat) :
    (takeVisible now most ms).1.map (·.content) =
      (r.ledger.due now most).map (·.message.content) := by
  have hwaiting : ms = r.ledger.waiting.map (·.message) := by
    rw [← h.queued, hms, Option.getD_some]
  rw [takeVisible_fst, hwaiting, List.filter_map, List.map_take, List.map_map, ← List.map_take]
  rfl

theorem faithful_of_move {r : QueueRun} {e : QueueEvent} {q : MemoryQueue} (h : r.Faithful)
    (hm : QueueMove r.queue e.effect q) : Faithful ⟨q, r.history ++ [e]⟩ := by
  have hledger := r.ledger_concat q e
  generalize he : e.effect = effect at hm hledger
  cases hm with
  | accept ms m hms =>
    constructor
    · simp [hledger, Ledger.record, Ledger.accept, Ledger.ticket, ← h.queued, hms]
    · simp [hledger, Ledger.record, Ledger.accept, h.delivered, he, QueueEffect.contents?]
  | take now most ms hms =>
    have hcontents := contents_takeVisible h hms now most
    have hkept := takeVisible_snd r.sound_ledger.waiting_nodup now most
    rw [← h.queued, hms, Option.getD_some] at hkept
    constructor
    · rw [hledger]
      exact hkept
    · simp [hledger, Ledger.record, Ledger.deliver, h.delivered, he, QueueEffect.contents?,
        hcontents]
  | clear ms hms =>
    constructor
    · simp [hledger, Ledger.record, Ledger.discard]
    · simp [hledger, Ledger.record, Ledger.discard, h.delivered, he, QueueEffect.contents?]
  | create hnone =>
    constructor
    · simp [hledger, Ledger.record, ← h.queued, hnone]
    · simp [hledger, Ledger.record, h.delivered, he, QueueEffect.contents?]
  | stay =>
    constructor
    · rw [hledger]
      exact h.queued
    · simp [hledger, Ledger.record, h.delivered, he, QueueEffect.contents?]

theorem faithful_step (r : QueueRun) (c : QueueCall) (h : r.Faithful) : (r.step c).Faithful :=
  faithful_of_move h (move_respond r.queue c)

theorem faithful_run {r : QueueRun} (h : r.Faithful) (calls : List QueueCall) :
    (r.run calls).Faithful :=
  run_induction faithful_step h calls

theorem faithful_after (name : String) (calls : List QueueCall) : (after name calls).Faithful :=
  faithful_run (faithful_new name) calls

theorem length_eq {r : QueueRun} (h : r.Faithful) : r.queue.length = r.ledger.waiting.length := by
  rw [MemoryQueue.length, h.queued, List.length_map]

theorem lasts_ledger_run (r : QueueRun) (calls : List QueueCall) :
    r.ledger.Lasts (r.run calls).ledger := by
  refine run_induction (P := fun r' => r.ledger.Lasts r'.ledger) ?_ (Ledger.Lasts.refl _) calls
  intro r' c h
  refine h.trans ?_
  rw [step, ledger_concat]
  exact Ledger.lasts_record r'.ledger _

/-! ## Every run -/

/-- What has become of the messages at some moment of a run. Messages that are equal are told apart
by the numbers of their tickets. -/
structure Conserved (r : QueueRun) : Prop where
  /-- The tickets are those of the accepted messages, numbered in the order of acceptance. -/
  accepted : r.ledger.accepted.map (·.message) = r.history.filterMap (·.effect.accepted?)
  numbered : r.ledger.accepted.map (·.number) = List.range r.ledger.accepted.length
  /-- Waiting is what is queued, delivered is what the takes gave, position by position, and
  discarded is what the clears removed. -/
  queued : r.queue.messages.getD [] = r.ledger.waiting.map (·.message)
  delivered : r.ledger.delivered.map (·.map (·.message.content)) =
    r.history.filterMap (·.effect.contents?)
  discarded : r.ledger.discarded.length = r.history.countP (·.effect.isClear)
  /-- Each accepted message is once in one of these places, and nothing else is. -/
  one_place : (r.ledger.waiting ++ r.ledger.delivered.flatten ++ r.ledger.discarded.flatten).Perm
    r.ledger.accepted
  /-- The queued messages are in the order of acceptance, and counted. -/
  in_order : r.ledger.waiting.Pairwise (·.number < ·.number)
  counted : r.queue.respond .length = (.count r.ledger.waiting.length, r.queue)
  /-- A message is not delivered before one that precedes it, nor while such a one waits. -/
  delivered_order : r.ledger.delivered.flatten.Pairwise fun x y => ¬y.Precedes x
  not_overtaken : ∀ x ∈ r.ledger.delivered.flatten, ∀ y ∈ r.ledger.waiting, ¬y.Precedes x
  /-- What was accepted, delivered or discarded stays so, whatever is asked later. -/
  lasting : ∀ more, r.ledger.Lasts (r.run more).ledger

/-- A queue conserves its messages and keeps their order, whatever is asked of it and whatever the
clock shows. -/
theorem messages_conserved (name : String) (calls : List QueueCall) :
    (after name calls).Conserved := by
  have hfaithful := faithful_after name calls
  have hsound := (after name calls).sound_ledger
  constructor
  case accepted => exact Ledger.accepted_ofHistory _
  case numbered => exact hsound.numbered
  case queued => exact hfaithful.queued
  case delivered => exact hfaithful.delivered
  case discarded => exact Ledger.length_discarded_ofHistory _
  case one_place => exact hsound.one_place
  case in_order => exact hsound.waiting_pairwise
  case counted => rw [MemoryQueue.respond, length_eq hfaithful]
  case delivered_order => exact hsound.delivered_order
  case not_overtaken => exact hsound.not_overtaken
  case lasting => exact lasts_ledger_run _

-- the first message is hidden until 5, so that the second is delivered before it
example : ((after "q" [.create, .add 0 "a" (some ⟨5⟩), .add 0 "b" none, .add 0 "c" none,
    .take 0 1, .take 9 9]).ledger.delivered.map (·.map (·.number))) = [[1], [0, 2]] := by
  decide

end QueueRun

end PlatformLink.Storage
