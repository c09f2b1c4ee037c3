import PlatformLink.Proofs.Event.Delivery

/-!
# Publishers that wait

A publisher in line is answered when it is given its turn, and not before: a cancelled token decides
first, then a closed channel, and then whether it was granted a slot. It is granted one only after
another one gave a slot back: an event was received, or somebody with a slot went without using it.
-/

namespace PlatformLink.Event

namespace ChannelRun

variable {r r' : ChannelRun} {a : ChannelStep} {w : Waiter} {requested : Nat}

/-! ## Answers -/

theorem find?_line (h : r.channel.Settled) (hw : w ∈ r.channel.line) :
    r.channel.line.find? (·.id == w.id) = some w := by
  cases hfound : r.channel.line.find? (·.id == w.id) with
  | none => exact absurd (beq_self_eq_true w.id) (List.find?_eq_none.mp hfound w hw)
  | some v =>
    have hid : v.id = w.id := by simpa using List.find?_some hfound
    rw [h.eq_of_id (List.mem_of_find?_eq_some hfound) hw hid]

/-- What a publisher that waits is answered in its turn; the token is looked at first. -/
def Completes (r : ChannelRun) (w : Waiter) (x : Outcome Unit) : Prop :=
  r.isCancelled w.id = true ∧ x = .error .cancelled ∨
    r.isCancelled w.id = false ∧
      (r.channel.closed = true ∧ x = Channel.refusal ∨
        r.channel.closed = false ∧ w.granted = true ∧ x = .ok ())

theorem resume_eq_some_iff (h : r.channel.Settled) (hw : w ∈ r.channel.line) (x : Outcome Unit) :
    (r.channel.resume w.id (r.isCancelled w.id)).1 = some x ↔ r.Completes w x := by
  rw [Channel.resume, find?_line h hw, Completes]
  dsimp only
  cases r.isCancelled w.id <;> cases r.channel.closed <;> cases w.granted <;> simp <;>
    exact eq_comm

/-- A step of somebody else answers nobody who waits. -/
theorem notMem_answers_of_ne (h : r.Numbered) (hw : w ∈ r.channel.line) (ha : a ≠ .resume w.id)
    (x : Outcome Unit) : (w.id, x) ∉ (r.step a).answers := by
  obtain ⟨hevent, hunanswered⟩ := h.of_line hw
  have hbefore : (w.id, x) ∉ r.answers := fun hmem => hunanswered (List.mem_map_of_mem hmem)
  have hother : ∀ {k : Nat} {y : Outcome Unit}, k ≠ w.id → (w.id, x) ∉ r.answers ++ [(k, y)] :=
    fun hne hmem => hbefore (mem_of_mem_concat (by simp [hne.symm]) hmem)
  have hnext : r.calls.length ≠ w.id := Nat.ne_of_gt (lt_of_event? hevent)
  have hmove := r.move_step a
  generalize r.step a = r' at hmove ⊢
  cases hmove with
  | fail | accept => exact hother hnext
  | giveUp v | complete v => exact hother fun heq => ha (heq ▸ rfl)
  | _ => exact hbefore

theorem mem_answers_step_iff (h : r.Sound requested) (hw : w ∈ r.channel.line)
    (a : ChannelStep) (x : Outcome Unit) :
    (w.id, x) ∈ (r.step a).answers ↔ a = .resume w.id ∧ r.Completes w x := by
  by_cases ha : a = .resume w.id
  · subst ha
    have hbefore : (w.id, x) ∉ r.answers := fun hmem =>
      (h.numbered.of_line hw).2 (List.mem_map_of_mem hmem)
    rw [← resume_eq_some_iff h.settled hw, step, answering]
    simp [hbefore]
  · simp [notMem_answers_of_ne h.numbered hw ha x, ha]

/-! ## Slots that are given back -/

/-- A step that gives a slot back: an event is received, or somebody goes who has a slot and does
not use it. -/
def Frees (r : ChannelRun) : ChannelStep → Prop
  | .receive => r.channel.buffer ≠ []
  | .resume call => r.isCancelled call = true ∧ ∃ w ∈ r.channel.line, w.id = call ∧ w.granted = true
  | .abandon call => ∃ w ∈ r.channel.line, w.id = call ∧ w.granted = true
  | _ => False

/-- A call that has begun and is not let through: it was not accepted, and has no slot by which it
could be. -/
structure Held (r : ChannelRun) (call : Nat) : Prop where
  begun : call < r.calls.length
  unaccepted : (call, .ok ()) ∉ r.answers
  slotless : r.channel.closed = false → ∀ w ∈ r.channel.line, w.id = call → w.granted = false

theorem held_of_line (h : r.Numbered) (hsettled : r.channel.Settled) (hw : w ∈ r.channel.line)
    (hungranted : w.granted = false) : r.Held w.id := by
  obtain ⟨hevent, hunanswered⟩ := h.of_line hw
  refine ⟨lt_of_event? hevent, fun hmem => hunanswered (List.mem_map_of_mem hmem), ?_⟩
  intro _ v hv heq
  rwa [hsettled.eq_of_id hv hw heq]

namespace Held

variable {call : Nat}

/-- Where nobody is answered with success and no slot is granted the call is held on. -/
theorem of_line (h : r.Held call) (hcalls : r.calls <+: r'.calls)
    (hanswers : (call, .ok ()) ∈ r'.answers → (call, .ok ()) ∈ r.answers)
    (hline : r'.channel.closed = false → r.channel.closed = false ∧
      ∀ w ∈ r'.channel.line, w.id = call → w.granted = true → w ∈ r.channel.line) :
    r'.Held call := by
  refine ⟨Nat.lt_of_lt_of_le h.begun hcalls.length_le, h.unaccepted ∘ hanswers, ?_⟩
  intro hopen w hw hid
  obtain ⟨hwasOpen, hmem⟩ := hline hopen
  cases hgranted : w.granted with
  | false => rfl
  | true => rw [← hgranted, h.slotless hwasOpen w (hmem w hw hid hgranted) hid]

theorem of_move (h : r.Held call) (hs : r.Sound requested) (hmove : ChannelMove r a r')
    (hkeeps : ¬r.Frees a) : r'.Held call := by
  have hcalls := calls_prefix_of_move hmove
  cases hmove with
  | fail token event e he =>
    exact h.of_line hcalls (mem_of_mem_concat (by simp)) fun hopen => ⟨hopen, fun w hw _ _ => hw⟩
  | accept token event hopen hroom =>
    have hne : call ≠ r.calls.length := Nat.ne_of_lt h.begun
    exact h.of_line hcalls (mem_of_mem_concat (by simp [hne])) fun hopen =>
      ⟨hopen, fun w hw _ _ => hw⟩
  | wait token event hopen hroom =>
    refine h.of_line hcalls id fun hopen => ⟨hopen, fun w hw _ hgranted => ?_⟩
    rcases List.mem_append.mp hw with hw | hw
    · exact hw
    · rw [List.mem_singleton.mp hw] at hgranted
      cases hgranted
  | giveUp v hv e he =>
    refine h.of_line hcalls (mem_of_mem_concat (by simp)) fun hopen => ?_
    rw [Channel.closed_leave] at hopen
    have hcancelled : r.isCancelled v.id = true := by
      rcases he with ⟨hcancelled, -⟩ | ⟨-, hclosed, -⟩
      · exact hcancelled
      · rw [hopen] at hclosed
        cases hclosed
    refine ⟨hopen, fun w hw _ _ => hs.settled.mem_of_mem_leave hopen (fun u hu hid => ?_) hw⟩
    exact Bool.eq_false_iff.mpr fun hgranted => hkeeps ⟨hcancelled, u, hu, hid, hgranted⟩
  | complete v hv hkept hopen hgranted =>
    have hne : call ≠ v.id := by
      rintro rfl
      rw [h.slotless hopen v hv rfl] at hgranted
      cases hgranted
    exact h.of_line hcalls (mem_of_mem_concat (by simp [hne])) fun hopen =>
      ⟨hopen, fun w hw _ _ => (List.mem_filter.mp hw).1⟩
  | abandon k =>
    refine h.of_line hcalls id fun hopen => ?_
    rw [Channel.closed_leave] at hopen
    refine ⟨hopen, fun w hw _ _ => hs.settled.mem_of_mem_leave hopen (fun u hu hid => ?_) hw⟩
    exact Bool.eq_false_iff.mpr fun hgranted => hkeeps ⟨u, hu, hid, hgranted⟩
  | receive event rest hbuffer =>
    refine absurd ?_ hkeeps
    rw [Frees, hbuffer]
    exact List.cons_ne_nil event rest
  | close | drop => exact h.of_line hcalls id nofun
  | _ => exact h.of_line hcalls id fun hopen => ⟨hopen, fun w hw _ _ => hw⟩

/-- A call is held on as long as no slot is given back. -/
theorem run_or_frees (h : r.Held call) (hs : r.Sound requested) (steps : List ChannelStep) :
    (r.run steps).Held call ∨
      ∃ before a after, steps = before ++ a :: after ∧ (r.run before).Frees a := by
  induction steps generalizing r with
  | nil => exact .inl h
  | cons a rest ih =>
    by_cases hfrees : r.Frees a
    · exact .inr ⟨[], a, rest, rfl, hfrees⟩
    have hmove := r.move_step a
    rcases ih (h.of_move hs hmove hfrees) (hs.of_move hmove) with
      hheld | ⟨before, b, after, rfl, hlater⟩
    · exact .inl hheld
    · exact .inr ⟨a :: before, b, after, rfl, hlater⟩

end Held

/-! ## Delivery -/

/-- What a channel that was requested with some capacity has delivered, and to whom it answered. -/
structure Delivers (requested : Nat) (r : ChannelRun) : Prop where
  /-- The events that were received are the first of those that were accepted, in their order. -/
  received_first : r.received <+: r.acceptedEvents
  /-- While the receiver is there, all others that were accepted are in the buffer. -/
  kept : r.gone = false → r.received ++ r.channel.buffer = r.acceptedEvents
  lost : r.gone = true → r.channel.buffer = []
  bounded : r.channel.buffer.length ≤ max requested 1
  answered_once : r.answered.Nodup
  /-- Every call that was accepted was so with an event of its own. -/
  accepted_events : r.accepted.map r.event? = r.acceptedEvents.map some
  /-- A call that failed is never accepted and is not in line, and it had a reason. -/
  failed : ∀ k e, (k, .error e) ∈ r.answers →
    (∀ steps, k ∉ (r.run steps).accepted) ∧ (∀ w ∈ r.channel.line, w.id ≠ k) ∧ r.Reason k e
  /-- With a cancelled token a call fails as it begins, whether there is room or not and whether the
  channel is closed or not. -/
  cancelled_before : ∀ token ∈ r.cancelled, ∀ event,
    r.step (.publish token event) = { r with
      calls := r.calls ++ [(token, event)]
      answers := r.answers ++ [(r.calls.length, .error .cancelled)] }
  /-- Any other call to an open channel with room is accepted at once. -/
  room : ∀ token, token ∉ r.cancelled → r.channel.closed = false → r.channel.hasRoom = true →
    ∀ event, (r.step (.publish token event)).acceptedEvents = r.acceptedEvents ++ [event]
  /-- The receiver gets the next event that is in the buffer. -/
  next : ∀ event rest, r.channel.buffer = event :: rest →
    (r.step .receive).received = r.received ++ [event]
  /-- While a publisher waits for a slot there is none. -/
  blocked : r.channel.closed = false → (∃ w ∈ r.channel.line, w.granted = false) →
    r.channel.hasRoom = false
  /-- A publisher that waits is answered in its turn: cancellation comes first, then the end of the
  channel, then its slot. -/
  completed : ∀ w ∈ r.channel.line, ∀ a x,
    (w.id, x) ∈ (r.step a).answers ↔ a = .resume w.id ∧ r.Completes w x
  /-- A publisher without a slot is accepted only after one was given back. -/
  unblocked : ∀ w ∈ r.channel.line, w.granted = false → ∀ steps,
    (w.id, .ok ()) ∈ (r.run steps).answers →
      ∃ before a after, steps = before ++ a :: after ∧ (r.run before).Frees a

theorem Sound.delivers (h : r.Sound requested) : r.Delivers requested := by
  constructor
  case received_first => exact h.conserved.received_first
  case kept => exact h.conserved.kept
  case lost => exact fun hgone => (h.conserved.lost hgone).1
  case bounded =>
    rw [← h.capacity]
    exact Nat.le_trans (Nat.le_add_right _ _) h.settled.bounded
  case answered_once => exact h.numbered.once
  case accepted_events => exact h.numbered.map_event?_accepted
  case failed =>
    intro k e he
    refine ⟨fun steps hk => ?_, fun w hw hid => ?_, h.explained k e he⟩
    · have hlater : (k, .error e) ∈ (r.run steps).answers := (r.answers_prefix_run steps).subset he
      have hboth := List.inj_on_of_nodup_map (h.run steps).numbered.once (mem_accepted_iff.mp hk)
        hlater rfl
      cases (Prod.mk.inj hboth).2
    · refine (h.numbered.of_line hw).2 ?_
      rw [hid]
      exact List.mem_map_of_mem he
  case cancelled_before =>
    intro token htoken event
    have hcancelled : r.cancelled.contains token = true := List.contains_iff_mem.mpr htoken
    rw [step, Channel.publish, if_pos hcancelled]
    rfl
  case room =>
    intro token htoken hopen hroom event
    have hcalls := calls_prefix_of_move (r.move_step (.publish token event))
    refine h.numbered.acceptedEvents_concat hcalls r.calls.length ?_ ?_
    · simp [step, Channel.publish, htoken, hopen, hroom, answering, accepted]
    · simp [step, answering, event?]
  case next =>
    intro event rest hbuffer
    simp [step, Channel.receive, hbuffer]
  case blocked =>
    intro hopen hwaits
    rw [Bool.eq_false_iff]
    intro hroom
    exact absurd (h.settled.full hopen hwaits) (Nat.ne_of_lt (Channel.hasRoom_iff.mp hroom))
  case completed => exact fun w hw a x => mem_answers_step_iff h hw a x
  case unblocked =>
    intro w hw hungranted steps hanswered
    have hheld := held_of_line h.numbered h.settled hw hungranted
    rcases hheld.run_or_frees h steps with hheld | hfrees
    · exact absurd hanswered hheld.unaccepted
    · exact hfrees

/-- Every run of every channel delivers; a channel is made unless it has more slots than can be
counted. -/
theorem delivers_accepted (requested : Nat) (steps : List ChannelStep) :
    (Channel.new? requested = none ↔ Channel.mostSlots < requested) ∧
      ∀ c, Channel.new? requested = some c → ((new c).run steps).Delivers requested :=
  ⟨Channel.new?_eq_none_iff requested, fun _ h => ((sound_new h).run steps).delivers⟩

/-- Three calls for one slot: the first is accepted at once, the second when an event was received,
and the third is cancelled while it waits; a fourth one finds the channel closed. -/
def contention : List ChannelStep :=
  [.publish 0 (.str "a"), .publish 0 (.str "b"), .publish 1 (.str "c"), .cancel 1, .receive,
    .resume 2, .resume 1, .close, .publish 0 (.str "d")]

theorem delivers_accepted_contention :
    Channel.new? 0 = some ⟨1, [], [], false⟩ ∧
      ((new ⟨1, [], [], false⟩).run contention).Delivers 0 :=
  ⟨rfl, (delivers_accepted 0 contention).2 _ rfl⟩

example : ((new ⟨1, [], [], false⟩).run contention).accepted = [0, 1] := by decide +kernel

end ChannelRun

end PlatformLink.Event
