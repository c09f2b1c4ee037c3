import PlatformLink.Proofs.Event.ChannelRun

/-!
# Delivery over a channel

Whatever the order of calls, cancellations, turns and receptions, a channel delivers what it
accepted and nothing else, once and in the order in which it was accepted. The invariant ties the
channel to what was seen from outside: who is in line has begun and was not answered (`Numbered`),
who failed had a reason (`Explained`), and what was received together with the buffer is what was
accepted (`Conserved`).
-/

namespace PlatformLink.Event

namespace ChannelRun

variable {r r' : ChannelRun} {a : ChannelStep}

/-! ## What only grows -/

theorem calls_prefix_of_move (h : ChannelMove r a r') : r.calls <+: r'.calls := by
  cases h with
  | fail | accept | wait => exact List.prefix_append _ _
  | _ => exact List.prefix_rfl

theorem answers_prefix_of_move (h : ChannelMove r a r') : r.answers <+: r'.answers := by
  cases h with
  | fail | accept | giveUp | complete => exact List.prefix_append _ _
  | _ => exact List.prefix_rfl

theorem cancelled_subset_of_move (h : ChannelMove r a r') : r.cancelled ⊆ r'.cancelled := by
  cases h with
  | cancel token => exact List.subset_cons_self token _
  | _ => exact List.Subset.refl _

theorem closed_of_move (h : ChannelMove r a r') (hclosed : r.channel.closed = true) :
    r'.channel.closed = true := by
  cases h with
  | close | drop => rfl
  | giveUp | abandon => rwa [Channel.closed_leave]
  | receive => rwa [Channel.closed_settle]
  | _ => exact hclosed

theorem answers_prefix_run (r : ChannelRun) (steps : List ChannelStep) :
    r.answers <+: (r.run steps).answers :=
  run_induction (P := fun q => r.answers <+: q.answers) List.prefix_rfl
    (fun _ _ _ h hmove => h.trans (answers_prefix_of_move hmove)) steps

theorem mem_of_mem_concat {α : Type} {x y : α} {xs : List α} (hne : x ≠ y) (h : x ∈ xs ++ [y]) :
    x ∈ xs := by
  rcases List.mem_append.mp h with h | h
  · exact h
  · exact absurd (List.mem_singleton.mp h) hne

theorem getElem?_of_grown {α : Type} {xs ys : List α} (h : xs <+: ys) {k : Nat}
    (hk : k < xs.length) : ys[k]? = xs[k]? := by
  obtain ⟨more, rfl⟩ := h
  exact List.getElem?_append_left hk

theorem event?_of_calls (h : r.calls <+: r'.calls) {k : Nat} (hk : k < r.calls.length) :
    r'.event? k = r.event? k := by
  rw [event?, event?, getElem?_of_grown h hk]

theorem lt_of_event? {k : Nat} {event : Json} (h : r.event? k = some event) :
    k < r.calls.length := by
  obtain ⟨c, hc, -⟩ := Option.map_eq_some_iff.mp h
  exact (List.getElem?_eq_some_iff.mp hc).1

theorem isCancelled_of_move (h : ChannelMove r a r') {k : Nat} (hk : r.isCancelled k = true) :
    r'.isCancelled k = true := by
  obtain ⟨token, htoken, hmem⟩ := (Option.any_eq_true _ _).mp hk
  obtain ⟨c, hc, -⟩ := Option.map_eq_some_iff.mp htoken
  have hlt := (List.getElem?_eq_some_iff.mp hc).1
  have hsame : r'.token? k = r.token? k := by
    rw [token?, token?, getElem?_of_grown (calls_prefix_of_move h) hlt]
  refine (Option.any_eq_true _ _).mpr ⟨token, hsame.trans htoken, ?_⟩
  exact List.contains_iff_mem.mpr (cancelled_subset_of_move h (List.contains_iff_mem.mp hmem))

/-! ## The numbers of the calls -/

/-- The calls that were answered. -/
def answered (r : ChannelRun) : List Nat :=
  r.answers.map (·.1)

structure Numbered (r : ChannelRun) : Prop where
  begun : ∀ k ∈ r.answered, k < r.calls.length
  once : r.answered.Nodup
  /-- Who is in line waits with the event of its call, and was not answered. -/
  waiting : ∀ e ∈ r.channel.waiting, r.event? e.1 = some e.2 ∧ e.1 ∉ r.answered

namespace Numbered

theorem of_subset (h : r.Numbered) (hcalls : r.calls <+: r'.calls)
    (hanswers : r'.answers = r.answers) (hwaiting : r'.channel.waiting ⊆ r.channel.waiting) :
    r'.Numbered := by
  have hanswered : r'.answered = r.answered := by rw [answered, hanswers, answered]
  refine ⟨fun k hk => ?_, hanswered ▸ h.once, fun e he => ?_⟩
  · exact Nat.lt_of_lt_of_le (h.begun k (hanswered ▸ hk)) hcalls.length_le
  · obtain ⟨hevent, hnew⟩ := h.waiting e (hwaiting he)
    rw [event?_of_calls hcalls (lt_of_event? hevent), hanswered]
    exact ⟨hevent, hnew⟩

/-- A call that is answered is in line no more. -/
theorem answer (h : r.Numbered) (hcalls : r.calls <+: r'.calls) {k : Nat} {x : Outcome Unit}
    (hanswers : r'.answers = r.answers ++ [(k, x)]) (hk : k < r'.calls.length)
    (hnew : k ∉ r.answered)
    (hwaiting : ∀ e ∈ r'.channel.waiting, e ∈ r.channel.waiting ∧ e.1 ≠ k) : r'.Numbered := by
  have hanswered : r'.answered = r.answered ++ [k] := by simp [answered, hanswers]
  constructor
  case begun =>
    intro j hj
    rw [hanswered] at hj
    rcases List.mem_append.mp hj with hj | hj
    · exact Nat.lt_of_lt_of_le (h.begun j hj) hcalls.length_le
    · exact List.mem_singleton.mp hj ▸ hk
  case once =>
    rw [hanswered, List.nodup_append]
    refine ⟨h.once, List.pairwise_singleton _ _, fun j hj i hi heq => hnew ?_⟩
    rwa [← List.mem_singleton.mp hi, ← heq]
  case waiting =>
    intro e he
    obtain ⟨hmem, hne⟩ := hwaiting e he
    obtain ⟨hevent, hunanswered⟩ := h.waiting e hmem
    rw [event?_of_calls hcalls (lt_of_event? hevent), hanswered]
    exact ⟨hevent, by simp [hunanswered, hne]⟩

theorem next_notMem_answered (h : r.Numbered) : r.calls.length ∉ r.answered :=
  fun hmem => Nat.lt_irrefl _ (h.begun _ hmem)

theorem ne_next (h : r.Numbered) {e : Nat × Json} (he : e ∈ r.channel.waiting) :
    e.1 ≠ r.calls.length :=
  Nat.ne_of_lt (lt_of_event? (h.waiting e he).1)

theorem of_line (h : r.Numbered) {w : Waiter} (hw : w ∈ r.channel.line) :
    r.event? w.id = some w.event ∧ w.id ∉ r.answered :=
  h.waiting (w.id, w.event) (List.mem_map_of_mem hw)

theorem of_move (h : r.Numbered) (hmove : ChannelMove r a r') : r'.Numbered := by
  have hcalls := calls_prefix_of_move hmove
  cases hmove with
  | fail token event e he =>
    exact h.answer hcalls rfl (by simp) h.next_notMem_answered fun e he => ⟨he, h.ne_next he⟩
  | accept token event hopen hroom =>
    exact h.answer hcalls rfl (by simp) h.next_notMem_answered fun e he => ⟨he, h.ne_next he⟩
  | wait token event hopen hroom =>
    refine ⟨?_, h.once, fun e he => ?_⟩
    · intro k hk
      exact Nat.lt_of_lt_of_le (h.begun k hk) hcalls.length_le
    · have hwaiting : e ∈ r.channel.waiting ∨ e = (r.calls.length, event) := by
        simpa [Channel.waiting] using he
      rcases hwaiting with he | rfl
      · obtain ⟨hevent, hnew⟩ := h.waiting e he
        exact ⟨(event?_of_calls hcalls (lt_of_event? hevent)).trans hevent, hnew⟩
      · exact ⟨by simp [event?], h.next_notMem_answered⟩
  | giveUp w hw e he =>
    obtain ⟨hevent, hnew⟩ := h.of_line hw
    refine h.answer hcalls rfl (lt_of_event? hevent) hnew fun e he => ?_
    simpa [Channel.waiting_leave] using he
  | complete w hw hkept hopen hgranted =>
    obtain ⟨hevent, hnew⟩ := h.of_line hw
    refine h.answer hcalls rfl (lt_of_event? hevent) hnew fun e he => ?_
    obtain ⟨v, hv, rfl⟩ := List.mem_map.mp he
    obtain ⟨hv, hne⟩ := List.mem_filter.mp hv
    exact ⟨List.mem_map_of_mem hv, of_decide_eq_true hne⟩
  | abandon call =>
    refine h.of_subset hcalls rfl ?_
    rw [Channel.waiting_leave]
    exact List.filter_sublist.subset
  | receive event rest hbuffer =>
    refine h.of_subset hcalls rfl ?_
    rw [Channel.waiting_settle]
    exact List.Subset.refl _
  | _ => exact h.of_subset hcalls rfl (List.Subset.refl _)

end Numbered

/-! ## Failures -/

/-- Why a call may have failed: its token is cancelled, or the channel is closed. -/
def Reason (r : ChannelRun) (k : Nat) (e : LinkError) : Prop :=
  r.isCancelled k = true ∧ e = .cancelled ∨
    r.channel.closed = true ∧ (.error e : Outcome Unit) = Channel.refusal

theorem Reason.of_move {k : Nat} {e : LinkError} (h : r.Reason k e) (hmove : ChannelMove r a r') :
    r'.Reason k e :=
  h.imp (fun h => ⟨isCancelled_of_move hmove h.1, h.2⟩) fun h => ⟨closed_of_move hmove h.1, h.2⟩

theorem reason_of_failsWith {k : Nat} {e : LinkError} {cancelled closed : Bool}
    (h : FailsWith cancelled closed e) (hcancelled : cancelled = r.isCancelled k)
    (hclosed : closed = r.channel.closed) : r.Reason k e := by
  subst hcancelled hclosed
  exact h.imp id And.right

def Explained (r : ChannelRun) : Prop :=
  ∀ k e, (k, .error e) ∈ r.answers → r.Reason k e

theorem Explained.of_move (h : r.Explained) (hmove : ChannelMove r a r') : r'.Explained := by
  intro k e he
  have hbefore : (k, .error e) ∈ r.answers → r'.Reason k e := fun he => (h k e he).of_move hmove
  have hfailed : ∀ {j : Nat} {d : LinkError}, r'.Reason j d →
      (k, .error e) ∈ r.answers ++ [(j, .error d)] → r'.Reason k e := by
    intro j d hd he
    rcases List.mem_append.mp he with he | he
    · exact hbefore he
    · obtain ⟨rfl, hed⟩ := Prod.mk.inj (List.mem_singleton.mp he)
      rwa [Except.error.inj hed]
  cases hmove with
  | fail token event d hd =>
    exact hfailed (reason_of_failsWith hd (by simp [isCancelled, token?]) rfl) he
  | giveUp w hw d hd =>
    exact hfailed (reason_of_failsWith hd rfl (Channel.closed_leave _ _).symm) he
  | accept | complete => exact hbefore (mem_of_mem_concat (by simp) he)
  | _ => exact hbefore he

/-! ## Events -/

theorem mem_accepted_iff {k : Nat} : k ∈ r.accepted ↔ (k, .ok ()) ∈ r.answers := by
  rw [accepted, List.mem_filterMap]
  constructor
  · rintro ⟨⟨j, x⟩, hmem, hx⟩
    cases x with
    | error e => cases hx
    | ok u => rwa [← Option.some.inj hx]
  · exact fun h => ⟨_, h, rfl⟩

theorem accepted_sublist_answered (r : ChannelRun) : r.accepted.Sublist r.answered := by
  rw [accepted, answered]
  induction r.answers with
  | nil => exact .slnil
  | cons answer rest ih =>
    obtain ⟨k, e | u⟩ := answer
    · exact ih.cons k
    · exact ih.cons_cons k

/-- The events of calls do not change. -/
theorem Numbered.filterMap_event? (h : r.Numbered) (hcalls : r.calls <+: r'.calls) :
    r.accepted.filterMap r'.event? = r.acceptedEvents := by
  refine List.filterMap_congr fun k hk => event?_of_calls hcalls (h.begun k ?_)
  exact r.accepted_sublist_answered.subset hk

theorem Numbered.acceptedEvents_eq (h : r.Numbered) (hcalls : r.calls <+: r'.calls)
    (haccepted : r'.accepted = r.accepted) : r'.acceptedEvents = r.acceptedEvents := by
  rw [acceptedEvents, haccepted, h.filterMap_event? hcalls]

theorem Numbered.acceptedEvents_concat (h : r.Numbered) (hcalls : r.calls <+: r'.calls) (k : Nat)
    {event : Json} (haccepted : r'.accepted = r.accepted ++ [k]) (hk : r'.event? k = some event) :
    r'.acceptedEvents = r.acceptedEvents ++ [event] := by
  rw [acceptedEvents, haccepted, List.filterMap_append, h.filterMap_event? hcalls]
  simp [hk]

/-- Every call that was accepted has an event. -/
theorem Numbered.map_event?_accepted (h : r.Numbered) :
    r.accepted.map r.event? = r.acceptedEvents.map some := by
  have hbegun : ∀ k ∈ r.accepted, k < r.calls.length := fun k hk =>
    h.begun k (r.accepted_sublist_answered.subset hk)
  rw [acceptedEvents]
  generalize r.accepted = ks at hbegun
  induction ks with
  | nil => rfl
  | cons k rest ih =>
    obtain ⟨hk, hrest⟩ := List.forall_mem_cons.mp hbegun
    have hevent : r.event? k = some r.calls[k].2 := by simp [event?, hk]
    rw [List.map_cons, List.filterMap_cons_some hevent, List.map_cons, ih hrest, hevent]

/-- What was received and what is in the buffer is what was accepted. -/
structure Conserved (r : ChannelRun) : Prop where
  received_first : r.received <+: r.acceptedEvents
  kept : r.gone = false → r.received ++ r.channel.buffer = r.acceptedEvents
  lost : r.gone = true → r.channel.buffer = [] ∧ r.channel.closed = true

namespace Conserved

theorem of_same (h : r.Conserved) (hevents : r'.acceptedEvents = r.acceptedEvents)
    (hbuffer : r'.channel.buffer = r.channel.buffer) (hreceived : r'.received = r.received)
    (hgone : r'.gone = r.gone) (hclosed : r.channel.closed = true → r'.channel.closed = true) :
    r'.Conserved := by
  refine ⟨?_, fun hthere => ?_, fun hlost => ?_⟩
  · rw [hevents, hreceived]
    exact h.received_first
  · rw [hevents, hreceived, hbuffer]
    exact h.kept (hgone ▸ hthere)
  · obtain ⟨hempty, hwasClosed⟩ := h.lost (hgone ▸ hlost)
    exact ⟨hbuffer.trans hempty, hclosed hwasClosed⟩

theorem there_of_open (h : r.Conserved) (hopen : r.channel.closed = false) : r.gone = false := by
  cases hgone : r.gone with
  | false => rfl
  | true => rw [(h.lost hgone).2] at hopen; cases hopen

/-- An event that is accepted goes to the end of the buffer. -/
theorem of_concat (h : r.Conserved) (hopen : r.channel.closed = false) {event : Json}
    (hevents : r'.acceptedEvents = r.acceptedEvents ++ [event])
    (hbuffer : r'.channel.buffer = r.channel.buffer ++ [event])
    (hreceived : r'.received = r.received) (hgone : r'.gone = r.gone) : r'.Conserved := by
  have hthere : r'.gone = false := hgone.trans (h.there_of_open hopen)
  refine ⟨?_, fun _ => ?_, fun hlost => ?_⟩
  · rw [hevents, hreceived]
    exact h.received_first.trans (List.prefix_append _ _)
  · rw [hevents, hreceived, hbuffer, ← List.append_assoc, h.kept (h.there_of_open hopen)]
  · rw [hthere] at hlost
    cases hlost

theorem of_move (h : r.Conserved) (hnumbered : r.Numbered) (hmove : ChannelMove r a r') :
    r'.Conserved := by
  have hcalls := calls_prefix_of_move hmove
  have hclosed := closed_of_move hmove
  cases hmove with
  | accept token event hopen hroom =>
    refine h.of_concat hopen
      (hnumbered.acceptedEvents_concat hcalls r.calls.length ?_ ?_) rfl rfl rfl
    · simp [accepted]
    · simp [event?]
  | complete w hw hkept hopen hgranted =>
    obtain ⟨hevent, -⟩ := hnumbered.of_line hw
    refine h.of_concat hopen
      (hnumbered.acceptedEvents_concat hcalls w.id ?_ hevent) rfl rfl rfl
    simp [accepted]
  | fail token event e he =>
    exact h.of_same (hnumbered.acceptedEvents_eq hcalls (by simp [accepted])) rfl rfl rfl hclosed
  | giveUp w hw e he =>
    exact h.of_same (hnumbered.acceptedEvents_eq hcalls (by simp [accepted]))
      (Channel.buffer_leave _ _) rfl rfl hclosed
  | abandon call =>
    exact h.of_same (hnumbered.acceptedEvents_eq hcalls rfl) (Channel.buffer_leave _ _) rfl rfl
      hclosed
  | receive event rest hbuffer =>
    have hthere : r.gone = false := by
      cases hgone : r.gone with
      | false => rfl
      | true => rw [(h.lost hgone).1] at hbuffer; cases hbuffer
    have hkept : (r.received ++ [event]) ++ rest = r.acceptedEvents := by
      rw [← h.kept hthere, hbuffer, List.append_assoc]
      rfl
    refine ⟨⟨rest, hkept⟩, fun _ => ?_, fun hlost => absurd (hthere.symm.trans hlost) nofun⟩
    rw [Channel.buffer_settle]
    exact hkept
  | drop => exact ⟨h.received_first, nofun, fun _ => ⟨rfl, rfl⟩⟩
  | _ => exact h.of_same (hnumbered.acceptedEvents_eq hcalls rfl) rfl rfl rfl hclosed

end Conserved

/-! ## Every run -/

/-- The invariant of a channel that was requested with some capacity. -/
structure Sound (requested : Nat) (r : ChannelRun) : Prop where
  settled : r.channel.Settled
  capacity : r.channel.capacity = max requested 1
  numbered : r.Numbered
  explained : r.Explained
  conserved : r.Conserved

theorem settled_of_move (h : r.channel.Settled) (hnumbered : r.Numbered)
    (hmove : ChannelMove r a r') : r'.channel.Settled := by
  cases hmove with
  | accept token event hopen hroom => exact h.accept hroom event
  | wait token event hopen hroom =>
    refine h.wait hroom (fun hmem => ?_) event
    obtain ⟨e, he, heq⟩ := List.mem_map.mp hmem
    exact hnumbered.ne_next he heq
  | giveUp w => exact h.leave w.id
  | complete w hw hkept hopen hgranted => exact h.complete hw hgranted
  | abandon call => exact h.leave call
  | receive event rest hbuffer => exact h.receive hbuffer
  | close => exact h.close
  | drop => exact h.drop
  | _ => exact h

theorem capacity_of_move (h : ChannelMove r a r') : r'.channel.capacity = r.channel.capacity := by
  cases h with
  | giveUp | abandon => exact Channel.capacity_leave _ _
  | receive => exact Channel.capacity_settle _
  | _ => rfl

namespace Sound

variable {requested : Nat}

theorem of_move (h : r.Sound requested) (hmove : ChannelMove r a r') : r'.Sound requested where
  settled := settled_of_move h.settled h.numbered hmove
  capacity := (capacity_of_move hmove).trans h.capacity
  numbered := h.numbered.of_move hmove
  explained := h.explained.of_move hmove
  conserved := h.conserved.of_move h.numbered hmove

theorem run (h : r.Sound requested) (steps : List ChannelStep) : (r.run steps).Sound requested :=
  run_induction h (fun _ _ _ h hmove => h.of_move hmove) steps

end Sound

theorem sound_new {requested : Nat} {c : Channel} (h : Channel.new? requested = some c) :
    (new c).Sound requested := by
  obtain ⟨hsettled, hcapacity, hbuffer, hline, hopen⟩ := Channel.settled_of_new? h
  have hwaiting : (new c).channel.waiting = [] := by
    rw [new, Channel.waiting, hline]
    rfl
  constructor
  case settled => exact hsettled
  case capacity => exact hcapacity
  case numbered =>
    refine ⟨List.forall_mem_nil _, .nil, ?_⟩
    rw [hwaiting]
    exact List.forall_mem_nil _
  case explained => exact fun k e he => absurd he List.not_mem_nil
  case conserved =>
    exact ⟨List.prefix_rfl, fun _ => hbuffer, fun hgone => absurd hgone Bool.false_ne_true⟩

end ChannelRun

end PlatformLink.Event
