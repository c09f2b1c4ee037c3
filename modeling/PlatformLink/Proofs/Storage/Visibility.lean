import PlatformLink.Proofs.Histories
import PlatformLink.Proofs.Storage.Conservation

/-!
# What is visible in a queue

A message can be seen from its time on, that is, when its delay has passed since it was added. A
peek shows what can be seen, and a take gives the first of it. Both are told in tickets
(`QueueRun.visible`), so that messages that are equal are told apart.

A message that can be seen can be seen at every later reading, until a take gives it or a clear
removes it. Only the two readings count for that: between them the clock may show anything.
-/

namespace PlatformLink.Storage

/-! ## Taking and peeking -/

/-- A take agrees with what a peek shows at the same reading. -/
structure TakesFirst (q : MemoryQueue) (now most : Nat) (shown : List String) : Prop where
  peeked : q.peek now = .ok shown
  taken : (q.take now most).1 = .ok (shown.take most)
  left : (q.take now most).2.peek now = .ok (shown.drop most)
  /-- What is hidden is what was hidden. -/
  hidden : (q.take now most).2.messages.map (·.filter (!·.isVisible now)) =
    q.messages.map (·.filter (!·.isVisible now))
  /-- Nothing is moved: what was visible is missing in a front of the messages, and that is all. -/
  places : ∃ front back, q.messages = some (front ++ back) ∧
    (q.take now most).2.messages = some (front.filter (!·.isVisible now) ++ back)

theorem peek_of_some {q : MemoryQueue} {ms : List QueuedMessage} (h : q.messages = some ms)
    (now : Nat) : q.peek now = .ok ((ms.filter (·.isVisible now)).map (·.content)) := by
  rw [MemoryQueue.peek, h]

theorem take_of_some {q : MemoryQueue} {ms : List QueuedMessage} (h : q.messages = some ms)
    (now most : Nat) : q.take now most = (.ok ((takeVisible now most ms).1.map (·.content)),
      { q with messages := some (takeVisible now most ms).2 }) := by
  rw [MemoryQueue.take, h]

theorem takesFirst_of_some {q : MemoryQueue} {ms : List QueuedMessage} (h : q.messages = some ms)
    (now most : Nat) :
    TakesFirst q now most ((ms.filter (·.isVisible now)).map (·.content)) := by
  have htake := take_of_some h now most
  constructor
  case peeked => exact peek_of_some h now
  case taken => rw [htake, takeVisible_fst, List.map_take]
  case left =>
    rw [htake, peek_of_some rfl, filter_visible_takeVisible_snd, List.map_drop]
  case hidden =>
    rw [htake, h, Option.map_some, Option.map_some, filter_hidden_takeVisible_snd]
  case places =>
    obtain ⟨front, back, rfl, hsplit⟩ := takeVisible_split now most ms
    exact ⟨front, back, h, by rw [htake, hsplit]⟩

/-! ## What can be seen -/

/-- Only an addition is accepted. -/
theorem QueueEvent.eq_add_of_accepted {e : QueueEvent} {m : QueuedMessage}
    (h : e.effect.accepted? = some m) : ∃ time delay,
      e = ⟨.add time m.content delay, .done (.ok ())⟩ ∧
        m.visibleAt = time + (delay.getD ⟨0⟩).nanoseconds := by
  unfold QueueEvent.effect at h
  split at h
  next time content delay =>
    obtain rfl := Option.some.inj h
    exact ⟨time, delay, rfl, rfl⟩
  all_goals cases h

namespace QueueRun

/-- The tickets of what can be seen at a reading, the oldest first. -/
def visible (r : QueueRun) (now : Nat) : List Ticket :=
  r.ledger.waiting.filter (·.message.isVisible now)

/-- The additions that were accepted, in their order. -/
def additions (r : QueueRun) : List QueueEvent :=
  r.history.filter (·.effect.accepted?.isSome)

/-- The message of a ticket was added at a time and with a delay. -/
def Added (r : QueueRun) (t : Ticket) (time : Nat) (delay : Option Duration) : Prop :=
  r.additions[t.number]? = some ⟨.add time t.message.content delay, .done (.ok ())⟩

variable {r : QueueRun} {t : Ticket}

theorem map_accepted?_additions (r : QueueRun) :
    r.additions.map (·.effect.accepted?) = r.ledger.accepted.map (some ·.message) := by
  have h := congrArg (List.map some) (Ledger.accepted_ofHistory r.history)
  rw [List.map_filterMap_some_eq_filter_map_isSome, List.filter_map, List.map_map] at h
  exact h.symm

/-- The number of a ticket is the place of its addition. -/
theorem exists_added (ht : t ∈ r.ledger.accepted) : ∃ time delay,
    r.Added t time delay ∧ t.message.visibleAt = time + (delay.getD ⟨0⟩).nanoseconds := by
  have hplace : (r.additions.map (·.effect.accepted?))[t.number]? = some (some t.message) := by
    rw [map_accepted?_additions, List.getElem?_map, r.sound_ledger.getElem?_number ht]
    rfl
  rw [List.getElem?_map] at hplace
  obtain ⟨e, he, hm⟩ := Option.map_eq_some_iff.mp hplace
  obtain ⟨time, delay, rfl, hvisible⟩ := QueueEvent.eq_add_of_accepted hm
  exact ⟨time, delay, he, hvisible⟩

theorem mem_visible_iff {now : Nat} : t ∈ r.visible now ↔
    t ∈ r.ledger.waiting ∧ t.message.visibleAt ≤ now := by
  rw [visible, List.mem_filter, QueuedMessage.isVisible, decide_eq_true_iff]

/-- A message can be seen if it is queued and its time has come. -/
theorem mem_visible_iff_added {now : Nat} : t ∈ r.visible now ↔ t ∈ r.ledger.waiting ∧
    ∃ time delay, r.Added t time delay ∧ time + (delay.getD ⟨0⟩).nanoseconds ≤ now := by
  rw [mem_visible_iff]
  refine and_congr_right fun hwaits => ?_
  obtain ⟨time, delay, hadded, hvisible⟩ :=
    exists_added (r.sound_ledger.kept_order.subset hwaits)
  constructor
  · intro hle
    exact ⟨time, delay, hadded, hvisible ▸ hle⟩
  · rintro ⟨time', delay', hadded', hle⟩
    -- there is one addition in the place of the ticket
    have hsame := Option.some.inj (hadded.symm.trans hadded')
    simp only [QueueEvent.mk.injEq, QueueCall.add.injEq, true_and, and_true] at hsame
    obtain ⟨rfl, rfl⟩ := hsame
    rwa [hvisible]

/-- What the visible tickets hold is what the queue shows. -/
theorem contents_visible (h : r.Faithful) {ms : List QueuedMessage}
    (hms : r.queue.messages = some ms) (now : Nat) :
    (ms.filter (·.isVisible now)).map (·.content) =
      (r.visible now).map (·.message.content) := by
  have hwaiting : ms = r.ledger.waiting.map (·.message) := by
    rw [← h.queued, hms, Option.getD_some]
  rw [hwaiting, List.filter_map, List.map_map, visible]
  rfl

/-! ## Until it is removed -/

/-- The tickets that a call takes out of a queue: those that a take gives, and with a clear all. -/
def removed (r : QueueRun) : QueueCall → List Ticket
  | .take now most => (r.visible now).take most
  | .clear => r.ledger.waiting
  | _ => []

theorem waiting_of_uncreated (h : r.Faithful) (hnone : r.queue.messages = none) :
    r.ledger.waiting = [] := by
  have hqueued := h.queued
  rw [hnone, Option.getD_none] at hqueued
  exact List.map_eq_nil_iff.mp hqueued.symm

theorem ledger_step (r : QueueRun) (c : QueueCall) :
    (r.step c).ledger = r.ledger.record (QueueEvent.effect ⟨c, (r.queue.respond c).1⟩) :=
  r.ledger_concat (r.queue.respond c).2 ⟨c, (r.queue.respond c).1⟩

/-- A call leaves the tickets in a queue that it does not remove. -/
theorem mem_waiting_step (h : r.Faithful) (ht : t ∈ r.ledger.accepted) (c : QueueCall) :
    t ∈ (r.step c).ledger.waiting ↔ t ∈ r.ledger.waiting ∧ t ∉ r.removed c := by
  rw [ledger_step]
  cases c with
  | create | peek now | length => exact (and_iff_left List.not_mem_nil).symm
  | add now content delay =>
    refine Iff.trans ?_ (and_iff_left List.not_mem_nil).symm
    rw [MemoryQueue.respond]
    cases (r.queue.add now content delay).1 with
    | error e => rfl
    | ok _ =>
      -- the message that is added gets a number that no ticket has
      have hnew : t ≠ r.ledger.ticket ⟨content, now + (delay.getD ⟨0⟩).nanoseconds⟩ := by
        rintro rfl
        exact absurd (r.sound_ledger.number_lt ht) (lt_irrefl _)
      exact List.mem_append.trans (or_iff_left fun hmem => hnew (List.mem_singleton.mp hmem))
  | take now most =>
    cases hq : r.queue.messages with
    | none =>
      rw [MemoryQueue.respond, MemoryQueue.take, hq]
      change t ∈ r.ledger.waiting ↔ _
      simp [waiting_of_uncreated h hq]
    | some ms =>
      rw [MemoryQueue.respond, take_of_some hq]
      exact Ledger.mem_waiting_deliver
  | clear =>
    cases hq : r.queue.messages with
    | none =>
      rw [MemoryQueue.respond, MemoryQueue.clear, hq]
      change t ∈ r.ledger.waiting ↔ _
      simp [waiting_of_uncreated h hq]
    | some ms =>
      rw [MemoryQueue.respond, MemoryQueue.clear, hq]
      exact iff_of_false List.not_mem_nil fun hstays => hstays.2 hstays.1

/-- A ticket stays in a queue until a call removes it. -/
theorem mem_waiting_run_iff (h : r.Faithful) (ht : t ∈ r.ledger.waiting)
    (calls : List QueueCall) : t ∈ (r.run calls).ledger.waiting ↔
      ∀ before c rest, calls = before ++ c :: rest → t ∉ (r.run before).removed c := by
  induction calls using List.reverseRecOn with
  | nil =>
    refine iff_of_true ht fun before c rest hsplit => ?_
    exact absurd hsplit.symm (List.append_ne_nil_of_right_ne_nil _ (List.cons_ne_nil _ _))
  | append_singleton calls c ih =>
    have haccepted : t ∈ (r.run calls).ledger.accepted :=
      (r.lasts_ledger_run calls).accepted.subset (r.sound_ledger.kept_order.subset ht)
    rw [run_append, show (r.run calls).run [c] = (r.run calls).step c from rfl,
      mem_waiting_step (faithful_run h calls) haccepted, ih]
    exact forall_split_concat_iff.symm

/-! ## Every run -/

/-- What can be seen in a queue, and for how long. -/
structure Visibility (r : QueueRun) : Prop where
  /-- A peek shows what the visible tickets hold, and a take gives the first of it. -/
  shown : ∀ now most, TakesFirst r.queue now most ((r.visible now).map (·.message.content))
  /-- A message can be seen from the time on at which it was added, and its delay. -/
  due_iff : ∀ now t, t ∈ r.visible now ↔ t ∈ r.ledger.waiting ∧
    ∃ time delay, r.Added t time delay ∧ time + (delay.getD ⟨0⟩).nanoseconds ≤ now
  /-- What can be seen can be seen later, unless a call between has removed it. -/
  until_removed : ∀ now, ∀ t ∈ r.visible now, ∀ calls later, now ≤ later →
    (t ∈ (r.run calls).visible later ↔
      ∀ before c rest, calls = before ++ c :: rest → t ∉ (r.run before).removed c)

/-- Whatever was asked of a queue that was created: a take agrees with a peek, nothing is seen
before its time, and what can be seen stays so until it is removed. -/
theorem visible_once_due (name : String) {calls : List QueueCall} (h : .create ∈ calls) :
    (after name calls).Visibility := by
  have hfaithful := faithful_after name calls
  constructor
  case shown =>
    intro now most
    obtain ⟨ms, hms⟩ := Option.isSome_iff_exists.mp ((isSome_messages_after_iff name calls).mpr h)
    rw [← contents_visible hfaithful hms]
    exact takesFirst_of_some hms now most
  case due_iff => exact fun now t => mem_visible_iff_added
  case until_removed =>
    intro now t ht more later hle
    obtain ⟨hwaits, hdue⟩ := mem_visible_iff.mp ht
    rw [mem_visible_iff, and_iff_left (hdue.trans hle)]
    exact mem_waiting_run_iff hfaithful hwaits more

/-- The first of two messages is hidden, and the second is not. -/
theorem visible_once_due_behind :
    let calls : List QueueCall := [.create, .add 0 "a" (some ⟨5⟩), .add 0 "b" none]
    .create ∈ calls ∧ (after "q" calls).Visibility ∧
      ((after "q" calls).visible 4).map (·.message.content) = ["b"] ∧
      ((after "q" calls).visible 5).map (·.message.content) = ["a", "b"] :=
  ⟨by decide, visible_once_due "q" (by decide), by decide, by decide⟩

end QueueRun

end PlatformLink.Storage
