import Mathlib.Data.List.Nodup
import PlatformLink.Event.Channel

/-!
# The slots of a channel

A slot of a channel is free, or granted to a publisher that waits, or taken by an event. A channel
is `Settled` when no slot is free while somebody in line has none: then a slot can only be granted
after one was given back, by an event that is received or by a publisher that goes with a slot of
its own.
-/

namespace PlatformLink.Event.Channel

/-! ## Granting -/

section

variable {line : List Waiter}

theorem map_grantFirst {α : Type} (f : Nat → Json → α) (line : List Waiter) :
    (grantFirst line).map (fun w => f w.id w.event) = line.map fun w => f w.id w.event := by
  induction line with
  | nil => rfl
  | cons w rest ih =>
    rw [grantFirst]
    split
    · rw [List.map_cons, List.map_cons, ih]
    · rfl

theorem grantFirst_of_all (h : ∀ w ∈ line, w.granted = true) : grantFirst line = line := by
  induction line with
  | nil => rfl
  | cons w rest ih =>
    obtain ⟨hw, hrest⟩ := List.forall_mem_cons.mp h
    rw [grantFirst, if_pos hw, ih hrest]

theorem length_granted_grantFirst (h : ∃ w ∈ line, w.granted = false) :
    ((grantFirst line).filter (·.granted)).length = (line.filter (·.granted)).length + 1 := by
  induction line with
  | nil => simp at h
  | cons w rest ih =>
    rw [grantFirst]
    split
    next hw =>
      have hrest : ∃ v ∈ rest, v.granted = false := by
        obtain ⟨v, hv, hungranted⟩ := h
        rcases List.mem_cons.mp hv with rfl | hv
        · simp [hw] at hungranted
        · exact ⟨v, hv, hungranted⟩
      simp [hw, ih hrest]
    next hw => simp [hw]

/-- Who has a slot keeps it, and at most one more gets one. -/
theorem length_granted_grantFirst_le (line : List Waiter) :
    ((grantFirst line).filter (·.granted)).length ≤ (line.filter (·.granted)).length + 1 := by
  by_cases h : ∃ w ∈ line, w.granted = false
  · exact Nat.le_of_eq (length_granted_grantFirst h)
  · have hall : ∀ w ∈ line, w.granted = true := by simpa using h
    rw [grantFirst_of_all hall]
    exact Nat.le_succ _

/-- A publisher goes with its slot, and all others keep theirs. -/
theorem length_granted_filter (hdistinct : (line.map (·.id)).Nodup) {w : Waiter} (hw : w ∈ line) :
    (line.filter (·.granted)).length =
      ((line.filter (·.id ≠ w.id)).filter (·.granted)).length + if w.granted then 1 else 0 := by
  induction line with
  | nil => cases hw
  | cons v rest ih =>
    obtain ⟨hv, hrest⟩ := List.nodup_cons.mp hdistinct
    rcases List.mem_cons.mp hw with rfl | hmem
    · have hothers : (w :: rest).filter (·.id ≠ w.id) = rest := by
        have hne : ∀ u ∈ rest, u.id ≠ w.id := fun u hu heq =>
          hv (List.mem_map.mpr ⟨u, hu, heq⟩)
        simpa using hne
      rw [hothers]
      by_cases hgranted : w.granted <;> simp [hgranted]
    · have hne : v.id ≠ w.id := fun heq => hv (List.mem_map.mpr ⟨w, hmem, heq.symm⟩)
      have hkept : (v :: rest).filter (·.id ≠ w.id) = v :: rest.filter (·.id ≠ w.id) := by
        simp [hne]
      have hrest := ih hrest hmem
      rw [hkept]
      by_cases hgranted : v.granted
      · simp only [List.filter_cons, hgranted, if_true, List.length_cons] at hrest ⊢
        omega
      · simpa [List.filter_cons, hgranted] using hrest

theorem filter_of_not_waiting {k : Nat} (h : ∀ w ∈ line, w.id ≠ k) :
    line.filter (·.id ≠ k) = line :=
  List.filter_eq_self.mpr fun w hw => decide_eq_true (h w hw)

end

/-! ## What the operations do to the parts of a channel -/

variable {c : Channel}

/-- The publishers in line, and the events that they wait with. -/
def waiting (c : Channel) : List (Nat × Json) :=
  c.line.map fun w => (w.id, w.event)

/-- The slots that are not free. -/
def taken (c : Channel) : Nat :=
  c.buffer.length + c.granted

@[simp] theorem buffer_settle (c : Channel) : c.settle.buffer = c.buffer := by
  unfold settle
  split <;> rfl

@[simp] theorem closed_settle (c : Channel) : c.settle.closed = c.closed := by
  unfold settle
  split <;> rfl

@[simp] theorem capacity_settle (c : Channel) : c.settle.capacity = c.capacity := by
  unfold settle
  split <;> rfl

@[simp] theorem waiting_settle (c : Channel) : c.settle.waiting = c.waiting := by
  unfold settle
  split
  · exact map_grantFirst Prod.mk c.line
  · rfl

@[simp] theorem buffer_leave (c : Channel) (k : Nat) : (c.leave k).buffer = c.buffer :=
  buffer_settle _

@[simp] theorem closed_leave (c : Channel) (k : Nat) : (c.leave k).closed = c.closed :=
  closed_settle _

@[simp] theorem capacity_leave (c : Channel) (k : Nat) : (c.leave k).capacity = c.capacity :=
  capacity_settle _

theorem waiting_leave (c : Channel) (k : Nat) :
    (c.leave k).waiting = c.waiting.filter (·.1 ≠ k) := by
  rw [leave, waiting_settle, waiting, waiting, List.filter_map]
  rfl

/-! ## Settled channels -/

structure Settled (c : Channel) : Prop where
  distinct : (c.waiting.map (·.1)).Nodup
  bounded : c.taken ≤ c.capacity
  /-- Who has no slot waits for one because none is free. -/
  full : c.closed = false → (∃ w ∈ c.line, w.granted = false) → c.taken = c.capacity

theorem map_id_line (c : Channel) : c.line.map (·.id) = c.waiting.map (·.1) := by
  rw [waiting, List.map_map]
  rfl

theorem Settled.eq_of_id (h : c.Settled) {v w : Waiter} (hv : v ∈ c.line) (hw : w ∈ c.line)
    (hid : v.id = w.id) : v = w :=
  List.inj_on_of_nodup_map (c.map_id_line ▸ h.distinct) hv hw hid

/-- At most one slot that is free is handed on. -/
theorem settled_settle (hdistinct : (c.waiting.map (·.1)).Nodup) (hbounded : c.taken ≤ c.capacity)
    (hnearly : c.closed = false → (∃ w ∈ c.line, w.granted = false) → c.capacity ≤ c.taken + 1) :
    c.settle.Settled := by
  refine ⟨by rwa [waiting_settle], ?_, ?_⟩
  · unfold settle hasRoom
    split
    next hroom =>
      have hlt : c.taken < c.capacity := of_decide_eq_true hroom
      have hle := length_granted_grantFirst_le c.line
      simp only [taken, granted] at hlt ⊢
      omega
    next => exact hbounded
  · intro hopen hwaits
    rw [closed_settle] at hopen
    unfold settle hasRoom at hwaits ⊢
    split at hwaits
    next hroom =>
      have hlt : c.taken < c.capacity := of_decide_eq_true hroom
      have hungranted : ∃ w ∈ c.line, w.granted = false := by
        by_contra hall
        rw [grantFirst_of_all (by simpa using hall)] at hwaits
        exact hall hwaits
      have hone := length_granted_grantFirst hungranted
      have hcapacity := hnearly hopen hungranted
      rw [if_pos hroom]
      simp only [taken, granted] at hlt hcapacity ⊢
      omega
    next hroom =>
      have hle : ¬c.taken < c.capacity := fun hlt => hroom (decide_eq_true hlt)
      rw [if_neg hroom]
      exact Nat.le_antisymm hbounded (Nat.not_lt.mp hle)

/-- Where all slots are taken, or nobody waits for one, there is nothing to hand on. -/
theorem settle_eq_self (h : (∃ w ∈ c.line, w.granted = false) → c.capacity ≤ c.taken) :
    c.settle = c := by
  unfold settle hasRoom
  split
  next hroom =>
    have hlt : c.taken < c.capacity := of_decide_eq_true hroom
    rw [grantFirst_of_all]
    by_contra hall
    exact Nat.not_le.mpr hlt (h (by simpa using hall))
  next => rfl

/-! ## What keeps a channel settled -/

theorem hasRoom_iff : c.hasRoom = true ↔ c.taken < c.capacity := decide_eq_true_iff

theorem new?_eq_none_iff (requested : Nat) : new? requested = none ↔ mostSlots < requested := by
  simp [new?]

theorem settled_of_new? {requested : Nat} (h : new? requested = some c) :
    c.Settled ∧ c.capacity = max requested 1 ∧ c.buffer = [] ∧ c.line = [] ∧ c.closed = false := by
  unfold new? at h
  split at h
  next =>
    obtain rfl := Option.some.inj h
    exact ⟨⟨.nil, Nat.zero_le _, fun _ hwaits => by simp at hwaits⟩, rfl, rfl, rfl, rfl⟩
  next => cases h

namespace Settled

/-- An event is taken where there is room. -/
theorem accept (h : c.Settled) (hroom : c.hasRoom = true) (event : Json) :
    Settled { c with buffer := c.buffer ++ [event] } := by
  have hlt := hasRoom_iff.mp hroom
  refine ⟨h.distinct, ?_, fun hopen hwaits => absurd (h.full hopen hwaits) (Nat.ne_of_lt hlt)⟩
  simp only [taken, granted, List.length_append, List.length_singleton] at hlt ⊢
  omega

/-- A publisher begins to wait where there is none. -/
theorem wait (h : c.Settled) (hroom : c.hasRoom = false) {k : Nat}
    (hnew : k ∉ c.waiting.map (·.1)) (event : Json) :
    Settled { c with line := c.line ++ [⟨k, event, false⟩] } := by
  have hge : ¬c.taken < c.capacity := fun hlt => by simp [hasRoom_iff.mpr hlt] at hroom
  have hsame : taken { c with line := c.line ++ [⟨k, event, false⟩] } = c.taken := by
    simp [taken, granted]
  refine ⟨?_, ?_, fun _ _ => ?_⟩
  · have hwaiting : waiting { c with line := c.line ++ [⟨k, event, false⟩] } =
        c.waiting ++ [(k, event)] := by simp [waiting]
    rw [hwaiting, List.map_append, List.nodup_append]
    refine ⟨h.distinct, List.pairwise_singleton _ _, ?_⟩
    intro j hj i hi heq
    have hi : i = k := List.mem_singleton.mp hi
    exact hnew (hi ▸ heq ▸ hj)
  · rw [hsame]
    exact h.bounded
  · rw [hsame]
    exact Nat.le_antisymm h.bounded (Nat.not_lt.mp hge)

/-- A publisher that goes gives back the slot that it was granted. -/
theorem taken_of_mem (h : c.Settled) {w : Waiter} (hw : w ∈ c.line) :
    c.taken = taken { c with line := c.line.filter (·.id ≠ w.id) } +
      if w.granted then 1 else 0 := by
  have hcount := length_granted_filter (c.map_id_line ▸ h.distinct) hw
  simp only [taken, granted, hcount]
  omega

/-- Without a publisher of the line one slot less may be taken. -/
theorem taken_filter (h : c.Settled) (k : Nat) :
    taken { c with line := c.line.filter (·.id ≠ k) } ≤ c.taken ∧
      c.taken ≤ taken { c with line := c.line.filter (·.id ≠ k) } + 1 := by
  by_cases hk : ∃ w ∈ c.line, w.id = k
  · obtain ⟨w, hw, rfl⟩ := hk
    rw [h.taken_of_mem hw]
    split <;> omega
  · rw [filter_of_not_waiting fun w hw heq => hk ⟨w, hw, heq⟩]
    exact ⟨Nat.le_refl _, Nat.le_succ _⟩

theorem distinct_filter (h : c.Settled) (k : Nat) :
    ((waiting { c with line := c.line.filter (·.id ≠ k) }).map (·.1)).Nodup :=
  h.distinct.sublist ((List.filter_sublist.map _).map _)

theorem leave (h : c.Settled) (k : Nat) : (c.leave k).Settled := by
  obtain ⟨hle, hge⟩ := h.taken_filter k
  refine settled_settle (h.distinct_filter k) (Nat.le_trans hle h.bounded) ?_
  rintro hopen ⟨w, hw, hungranted⟩
  rw [← h.full hopen ⟨w, (List.mem_filter.mp hw).1, hungranted⟩]
  exact hge

/-- A publisher that goes without a slot gives none back. -/
theorem leave_eq (h : c.Settled) (hopen : c.closed = false) {k : Nat}
    (hk : ∀ w ∈ c.line, w.id = k → w.granted = false) :
    c.leave k = { c with line := c.line.filter (·.id ≠ k) } := by
  have hsame : taken { c with line := c.line.filter (·.id ≠ k) } = c.taken := by
    by_cases hwaits : ∃ w ∈ c.line, w.id = k
    · obtain ⟨w, hw, rfl⟩ := hwaits
      simp [h.taken_of_mem hw, hk w hw rfl]
    · rw [filter_of_not_waiting fun w hw heq => hwaits ⟨w, hw, heq⟩]
  refine settle_eq_self ?_
  rintro ⟨w, hw, hungranted⟩
  rw [hsame]
  exact Nat.le_of_eq (h.full hopen ⟨w, (List.mem_filter.mp hw).1, hungranted⟩).symm

theorem mem_of_mem_leave (h : c.Settled) (hopen : c.closed = false) {k : Nat}
    (hk : ∀ w ∈ c.line, w.id = k → w.granted = false) {w : Waiter} (hw : w ∈ (c.leave k).line) :
    w ∈ c.line := by
  rw [h.leave_eq hopen hk] at hw
  exact (List.mem_filter.mp hw).1

/-- A slot that was granted is taken by the event of its publisher. -/
theorem complete (h : c.Settled) {w : Waiter} (hw : w ∈ c.line) (hgranted : w.granted = true) :
    Settled { c with
      buffer := c.buffer ++ [w.event]
      line := c.line.filter (·.id ≠ w.id) } := by
  have hsame : taken { c with
      buffer := c.buffer ++ [w.event]
      line := c.line.filter (·.id ≠ w.id) } = c.taken := by
    rw [h.taken_of_mem hw, if_pos hgranted]
    simp only [taken, granted, List.length_append, List.length_singleton]
    omega
  refine ⟨h.distinct_filter w.id, hsame ▸ h.bounded, ?_⟩
  rintro hopen ⟨v, hv, hungranted⟩
  rw [hsame]
  exact h.full hopen ⟨v, (List.mem_filter.mp hv).1, hungranted⟩

/-- The slot of an event that is received is free. -/
theorem receive (h : c.Settled) {event : Json} {rest : List Json}
    (hbuffer : c.buffer = event :: rest) : (settle { c with buffer := rest }).Settled := by
  have hone : c.taken = taken { c with buffer := rest } + 1 := by
    simp only [taken, granted, hbuffer, List.length_cons]
    omega
  refine settled_settle h.distinct (Nat.le_trans (hone ▸ Nat.le_succ _) h.bounded) ?_
  intro hopen hwaits
  rw [← hone]
  exact Nat.le_of_eq (h.full hopen hwaits).symm

/-- A closed channel grants what it likes, since nothing is sent any more. -/
theorem close (h : c.Settled) : c.close.Settled :=
  ⟨h.distinct, h.bounded, nofun⟩

theorem drop (h : c.Settled) : c.drop.Settled := by
  refine ⟨h.distinct, Nat.le_trans ?_ h.bounded, nofun⟩
  simp only [taken, granted, Channel.drop, List.length_nil]
  omega

end Settled

end PlatformLink.Event.Channel
