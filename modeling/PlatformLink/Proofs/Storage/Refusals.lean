import PlatformLink.Proofs.Storage.QueueLedger
import PlatformLink.Proofs.Storage.Taking
import PlatformLink.Proofs.Text.Utf8

/-!
# What a queue refuses

A queue is there from the first call that creates it on, and nothing undoes that. So the calls that
were made tell whether the next one is refused, and why (`QueueCall.refusal?`): nothing else of the
queue counts. What is refused leaves the queue as it is, and what is not refused does to the
messages what its call says (`QueueCall.carry`).
-/

namespace PlatformLink.Storage

/-- The error that an answer is, if it is one. -/
def QueueAnswer.error? : QueueAnswer → Option LinkError
  | done (.error e) | contents (.error e) => some e
  | _ => none

/-- Why a call is refused that needs a queue to be there. -/
def missing? (name : String) : (isThere : Bool) → Option LinkError
  | true => none
  | false => some (.notFound (.queue name))

/-- Why a call is refused, if it is. A message that is added is looked at first, then its delay,
then whether there is a queue to add it to. -/
def QueueCall.refusal? (name : String) (isThere : Bool) : QueueCall → Option LinkError
  | create | length => none
  | add now content delay =>
    if 65536 < content.utf8ByteSize then
      some (.validation (.messageTooLong content.utf8ByteSize 65536))
    else if clockEnd ≤ now + (delay.getD ⟨0⟩).nanoseconds then
      some (.validation (.delayOutOfRange (delay.getD ⟨0⟩)))
    else missing? name isThere
  | take .. | peek _ | clear => missing? name isThere

/-- What a call that is not refused makes of the messages. -/
def QueueCall.carry (c : QueueCall) (ms : Option (List QueuedMessage)) :
    Option (List QueuedMessage) :=
  match c with
  | create => some (ms.getD [])
  | add now content delay =>
    ms.map (· ++ [⟨content, now + (delay.getD ⟨0⟩).nanoseconds⟩])
  | take now most => ms.map fun ms => (takeVisible now most ms).2
  | clear => ms.map fun _ => []
  | peek _ | length => ms

namespace MemoryQueue

variable {q : MemoryQueue} {now : Nat} {content : String} {delay : Option Duration}

/-! ## Adding -/

theorem visibleAt_of_le {delay : Duration} (h : clockEnd ≤ now + delay.nanoseconds) :
    visibleAt now delay = .error (.validation (.delayOutOfRange delay)) := by
  rw [visibleAt, if_neg (Nat.not_lt.mpr h)]

theorem visibleAt_of_lt {delay : Duration} (h : now + delay.nanoseconds < clockEnd) :
    visibleAt now delay = .ok (now + delay.nanoseconds) := by
  rw [visibleAt, if_pos h]

/-- What is refused is an error, and the queue stays. -/
theorem add_of_refusal {e : LinkError}
    (h : (QueueCall.add now content delay).refusal? q.name q.messages.isSome = some e) :
    q.add now content delay = (.error e, q) := by
  rw [add, Text.octetLength_eq_utf8ByteSize, longestMessage]
  rw [QueueCall.refusal?] at h
  by_cases hlong : 65536 < content.utf8ByteSize
  · rw [if_pos hlong] at h ⊢
    rw [Option.some.inj h]
  rw [if_neg hlong] at h ⊢
  by_cases hclock : clockEnd ≤ now + (delay.getD ⟨0⟩).nanoseconds
  · rw [if_pos hclock] at h
    rw [visibleAt_of_le hclock, Option.some.inj h]
  rw [if_neg hclock] at h
  rw [visibleAt_of_lt (Nat.not_le.mp hclock)]
  cases hq : q.messages with
  | none =>
    rw [hq] at h
    rw [← Option.some.inj h]
    rfl
  | some ms =>
    rw [hq] at h
    cases h

/-- What is not refused is put behind what is queued. -/
theorem add_of_accepted
    (h : (QueueCall.add now content delay).refusal? q.name q.messages.isSome = none) :
    ∃ ms, q.messages = some ms ∧ content.utf8ByteSize ≤ 65536 ∧
      q.add now content delay = (.ok (), { q with
        messages := some (ms ++ [⟨content, now + (delay.getD ⟨0⟩).nanoseconds⟩]) }) := by
  rw [QueueCall.refusal?] at h
  split_ifs at h with hlong hclock
  cases hq : q.messages with
  | none =>
    rw [hq] at h
    cases h
  | some ms =>
    refine ⟨ms, rfl, Nat.not_lt.mp hlong, ?_⟩
    rw [add, Text.octetLength_eq_utf8ByteSize, longestMessage, if_neg hlong,
      visibleAt_of_lt (Nat.not_le.mp hclock), hq]

/-! ## Any call -/

theorem error?_respond (q : MemoryQueue) (c : QueueCall) :
    (q.respond c).1.error? = c.refusal? q.name q.messages.isSome := by
  cases c with
  | create | length => rfl
  | add now content delay =>
    cases h : (QueueCall.add now content delay).refusal? q.name q.messages.isSome with
    | some e =>
      rw [respond, add_of_refusal h]
      rfl
    | none =>
      obtain ⟨ms, -, -, hadd⟩ := add_of_accepted h
      rw [respond, hadd]
      rfl
  | take now most => cases hq : q.messages <;> simp only [respond, take, hq] <;> rfl
  | peek now => cases hq : q.messages <;> simp only [respond, peek, hq] <;> rfl
  | clear => cases hq : q.messages <;> simp only [respond, clear, hq] <;> rfl

theorem respond_of_refusal {c : QueueCall} {e : LinkError}
    (h : c.refusal? q.name q.messages.isSome = some e) : (q.respond c).2 = q := by
  cases c with
  | create | length => cases h
  | add now content delay => rw [respond, add_of_refusal h]
  | peek now => rfl
  | take now most | clear =>
    cases hq : q.messages with
    | none => simp only [respond, take, clear, hq]
    | some ms =>
      rw [hq] at h
      cases h

theorem respond_of_accepted {c : QueueCall} (h : c.refusal? q.name q.messages.isSome = none) :
    (q.respond c).2 = { q with messages := c.carry q.messages } := by
  cases c with
  | peek now | length => rfl
  | create =>
    cases hq : q.messages with
    | none => simp only [respond, createIfAbsent, hq, QueueCall.carry, Option.getD_none]
    | some ms =>
      simp only [respond, createIfAbsent, hq, QueueCall.carry, Option.getD_some]
      rw [← hq]
  | add now content delay =>
    obtain ⟨ms, hq, -, hadd⟩ := add_of_accepted h
    rw [respond, hadd, QueueCall.carry, hq]
    rfl
  | take now most | clear =>
    cases hq : q.messages with
    | none =>
      rw [hq] at h
      cases h
    | some ms => simp only [respond, take, clear, hq, QueueCall.carry, Option.map_some]

theorem name_respond (q : MemoryQueue) (c : QueueCall) : (q.respond c).2.name = q.name := by
  cases h : c.refusal? q.name q.messages.isSome with
  | some e => rw [respond_of_refusal h]
  | none => rw [respond_of_accepted h]

/-- Only creating puts a queue where there was none, and nothing removes one. -/
theorem isSome_messages_respond (q : MemoryQueue) (c : QueueCall) :
    (q.respond c).2.messages.isSome = true ↔ q.messages.isSome = true ∨ c = .create := by
  cases h : c.refusal? q.name q.messages.isSome with
  | some e =>
    have hcreate : c ≠ .create := by
      rintro rfl
      cases h
    rw [respond_of_refusal h, or_iff_left hcreate]
  | none =>
    rw [respond_of_accepted h]
    cases c <;> simp [QueueCall.carry]

/-- Nothing is queued that is too long. -/
theorem short_respond {c : QueueCall}
    (h : ∀ m ∈ q.messages.getD [], m.content.utf8ByteSize ≤ 65536) :
    ∀ m ∈ (q.respond c).2.messages.getD [], m.content.utf8ByteSize ≤ 65536 := by
  cases hrefusal : c.refusal? q.name q.messages.isSome with
  | some e =>
    rw [respond_of_refusal hrefusal]
    exact h
  | none =>
    rw [respond_of_accepted hrefusal]
    cases c with
    | create | peek now | length => exact h
    | add now content delay =>
      obtain ⟨ms, hq, hshort, -⟩ := add_of_accepted hrefusal
      rw [hq] at h
      intro m hm
      rw [QueueCall.carry, hq, Option.map_some, Option.getD_some] at hm
      rcases List.mem_append.mp hm with hm | hm
      · exact h m hm
      · rw [List.mem_singleton.mp hm]
        exact hshort
    | take now most =>
      cases hq : q.messages with
      | none => exact fun m hm => absurd hm List.not_mem_nil
      | some ms =>
        rw [hq] at h
        exact fun m hm => h m ((takeVisible_snd_sublist now most ms).subset hm)
    | clear => cases q.messages <;> exact fun m hm => absurd hm List.not_mem_nil

end MemoryQueue

/-! ## Every run -/

namespace QueueRun

theorem run_append (r : QueueRun) (calls more : List QueueCall) :
    r.run (calls ++ more) = (r.run calls).run more :=
  List.foldl_append

theorem after_concat (name : String) (calls : List QueueCall) (c : QueueCall) :
    after name (calls ++ [c]) = (after name calls).step c :=
  run_append _ calls [c]

theorem name_after (name : String) (calls : List QueueCall) :
    (after name calls).queue.name = name :=
  run_induction (P := fun r => r.queue.name = name)
    (fun r c h => (r.queue.name_respond c).trans h) rfl calls

/-- There is a queue once it was created. -/
theorem isSome_messages_after_iff (name : String) (calls : List QueueCall) :
    (after name calls).queue.messages.isSome = true ↔ .create ∈ calls := by
  induction calls using List.reverseRecOn with
  | nil => exact iff_of_false Bool.false_ne_true List.not_mem_nil
  | append_singleton calls c ih =>
    rw [after_concat, step, MemoryQueue.isSome_messages_respond, ih, List.mem_append,
      List.mem_singleton, eq_comm]

/-- What is refused after calls, and what becomes of the queue. -/
structure RefusesExactly (name : String) (calls : List QueueCall) : Prop where
  created_iff : (after name calls).queue.messages.isSome = true ↔ .create ∈ calls
  /-- Nothing that is asked later removes a queue. -/
  lasting : (after name calls).queue.messages.isSome = true →
    ∀ more, (after name (calls ++ more)).queue.messages.isSome = true
  /-- The first call that creates is told so, and no later one. -/
  creates : ((after name calls).queue.respond .create).1 = .created (decide (.create ∉ calls))
  refused : ∀ c : QueueCall, ((after name calls).queue.respond c).1.error? =
    c.refusal? name (decide (.create ∈ calls))
  untouched : ∀ c, ((after name calls).queue.respond c).1.error?.isSome = true →
    ((after name calls).queue.respond c).2 = (after name calls).queue
  short : ∀ m ∈ (after name calls).queue.messages.getD [], m.content.utf8ByteSize ≤ 65536

/-- Every run of a queue refuses exactly what is too long, too late or has no queue to go to, and
what is refused changes nothing. -/
theorem refuses_exactly (name : String) (calls : List QueueCall) : RefusesExactly name calls := by
  have hcreated := isSome_messages_after_iff name calls
  have hrefused (c : QueueCall) := (after name calls).queue.error?_respond c
  constructor
  case created_iff => exact hcreated
  case lasting =>
    intro h more
    rw [isSome_messages_after_iff, List.mem_append]
    exact .inl (hcreated.mp h)
  case creates =>
    rw [MemoryQueue.respond, MemoryQueue.createIfAbsent]
    by_cases h : .create ∈ calls
    · obtain ⟨ms, hms⟩ := Option.isSome_iff_exists.mp (hcreated.mpr h)
      simp [hms, h]
    · simp [Option.not_isSome_iff_eq_none.mp (h ∘ hcreated.mp), h]
  case refused =>
    intro c
    rw [hrefused, name_after, Bool.eq_iff_iff.mpr (hcreated.trans decide_eq_true_iff.symm)]
  case untouched =>
    intro c h
    rw [hrefused] at h
    obtain ⟨e, he⟩ := Option.isSome_iff_exists.mp h
    exact MemoryQueue.respond_of_refusal he
  case short =>
    exact run_induction (P := fun r => ∀ m ∈ r.queue.messages.getD [], _)
      (fun r c h => MemoryQueue.short_respond h) (fun m hm => absurd hm List.not_mem_nil) calls

end QueueRun

end PlatformLink.Storage
