import Mathlib.Data.List.Perm.Basic
import Mathlib.Data.List.Range
import PlatformLink.Storage.Queue

/-!
# The ledger of a queue

A run of a queue is a list of calls, and its history holds every call with its answer. The ledger is
kept by an observer who sees the history alone. It numbers the messages in the order in which they
were accepted, and holds which of them wait, which were delivered by which take, and which were
discarded by which clear.

`Sound` says what holds of every ledger, whatever the history was. That the ledger tells of the
queue itself is the subject of `Conservation`.
-/

namespace PlatformLink.Storage

/-! ## Runs -/

/-- What may be asked of a queue, with the clock reading where the clock is looked at. -/
inductive QueueCall where
  | create
  | add (now : Nat) (content : String) (delay : Option Duration)
  | take (now most : Nat)
  | peek (now : Nat)
  | clear
  | length
  deriving Repr, DecidableEq

inductive QueueAnswer where
  | created (isNew : Bool)
  | done (r : Outcome Unit)
  | contents (r : Outcome (List String))
  | count (n : Nat)

structure QueueEvent where
  call : QueueCall
  answer : QueueAnswer

/-- The answer to a call, and the queue after it. -/
def MemoryQueue.respond (q : MemoryQueue) : QueueCall → QueueAnswer × MemoryQueue
  | .create => (.created q.createIfAbsent.1, q.createIfAbsent.2)
  | .add now content delay => (.done (q.add now content delay).1, (q.add now content delay).2)
  | .take now most => (.contents (q.take now most).1, (q.take now most).2)
  | .peek now => (.contents (q.peek now), q)
  | .clear => (.done q.clear.1, q.clear.2)
  | .length => (.count q.length, q)

structure QueueRun where
  queue : MemoryQueue
  history : List QueueEvent

namespace QueueRun

/-- A queue that nothing was asked of yet. -/
def new (name : String) : QueueRun := ⟨⟨name, none⟩, []⟩

def step (r : QueueRun) (c : QueueCall) : QueueRun :=
  ⟨(r.queue.respond c).2, r.history ++ [⟨c, (r.queue.respond c).1⟩]⟩

def run (r : QueueRun) (calls : List QueueCall) : QueueRun :=
  calls.foldl step r

/-- A new queue after calls. -/
def after (name : String) (calls : List QueueCall) : QueueRun :=
  (new name).run calls

/-- What every call keeps holds after every run. -/
theorem run_induction {P : QueueRun → Prop} (keep : ∀ r c, P r → P (r.step c)) {r : QueueRun}
    (h : P r) (calls : List QueueCall) : P (r.run calls) := by
  induction calls generalizing r with
  | nil => exact h
  | cons c rest ih => exact ih (keep r c h)

end QueueRun

/-! ## What an observer sees -/

/-- What a call with its answer tells of the messages. -/
inductive QueueEffect where
  | accepted (m : QueuedMessage)
  | taken (now most : Nat) (contents : List String)
  | cleared
  | nothing

def QueueEvent.effect : QueueEvent → QueueEffect
  | ⟨.add now content delay, .done (.ok ())⟩ =>
    .accepted ⟨content, now + (delay.getD ⟨0⟩).nanoseconds⟩
  | ⟨.take now most, .contents (.ok contents)⟩ => .taken now most contents
  | ⟨.clear, .done (.ok ())⟩ => .cleared
  | _ => .nothing

namespace QueueEffect

def accepted? : QueueEffect → Option QueuedMessage
  | accepted m => some m
  | _ => none

def contents? : QueueEffect → Option (List String)
  | taken _ _ contents => some contents
  | _ => none

def isClear : QueueEffect → Bool
  | cleared => true
  | _ => false

end QueueEffect

/-! ## The ledger -/

theorem QueuedMessage.isVisible_of_le {m m' : QueuedMessage} {now : Nat}
    (hle : m'.visibleAt ≤ m.visibleAt) (h : m.isVisible now = true) : m'.isVisible now = true := by
  simp only [isVisible, decide_eq_true_eq] at h ⊢
  exact hle.trans h

/-- A message with the number under which it was accepted. -/
structure Ticket where
  number : Nat
  message : QueuedMessage
  deriving Repr, DecidableEq

/-- The message of `y` was accepted before that of `x` and becomes visible no later. -/
def Ticket.Precedes (y x : Ticket) : Prop :=
  y.number < x.number ∧ y.message.visibleAt ≤ x.message.visibleAt

/-- Of tickets those whose messages are visible, and of these the first. -/
def dueTickets (now most : Nat) (ts : List Ticket) : List Ticket :=
  (ts.filter (·.message.isVisible now)).take most

section DueTickets

variable {now most : Nat} {t : Ticket} {ts : List Ticket}

theorem dueTickets_zero : dueTickets now 0 ts = [] := rfl

theorem dueTickets_cons_of_visible (h : t.message.isVisible now = true) :
    dueTickets now (most + 1) (t :: ts) = t :: dueTickets now most ts := by
  simp [dueTickets, h]

theorem dueTickets_cons_of_hidden (h : t.message.isVisible now = false) :
    dueTickets now most (t :: ts) = dueTickets now most ts := by
  simp [dueTickets, h]

theorem dueTickets_sublist : (dueTickets now most ts).Sublist ts :=
  (List.take_sublist _ _).trans List.filter_sublist

end DueTickets

/-- Delivered are the tickets of each take, discarded those of each clear. -/
structure Ledger where
  accepted : List Ticket
  waiting : List Ticket
  delivered : List (List Ticket)
  discarded : List (List Ticket)

namespace Ledger

def empty : Ledger := ⟨[], [], [], []⟩

/-- The ticket that the message accepted next gets. -/
def ticket (l : Ledger) (m : QueuedMessage) : Ticket := ⟨l.accepted.length, m⟩

def accept (l : Ledger) (m : QueuedMessage) : Ledger :=
  { l with
    accepted := l.accepted ++ [l.ticket m]
    waiting := l.waiting ++ [l.ticket m] }

/-- What a take gives. -/
def due (l : Ledger) (now most : Nat) : List Ticket :=
  dueTickets now most l.waiting

def deliver (l : Ledger) (now most : Nat) : Ledger :=
  { l with
    waiting := l.waiting.filter (· ∉ l.due now most)
    delivered := l.delivered ++ [l.due now most] }

def discard (l : Ledger) : Ledger :=
  { l with
    waiting := []
    discarded := l.discarded ++ [l.waiting] }

def record (l : Ledger) : QueueEffect → Ledger
  | .accepted m => l.accept m
  | .taken now most _ => l.deliver now most
  | .cleared => l.discard
  | .nothing => l

/-- The ledger of a history. -/
def ofHistory (history : List QueueEvent) : Ledger :=
  history.foldl (fun l e => l.record e.effect) empty

theorem ofHistory_concat (history : List QueueEvent) (e : QueueEvent) :
    ofHistory (history ++ [e]) = (ofHistory history).record e.effect := by
  simp [ofHistory]

/-- The accepted messages are those of the history. -/
theorem accepted_ofHistory (history : List QueueEvent) :
    (ofHistory history).accepted.map (·.message) =
      history.filterMap (·.effect.accepted?) := by
  induction history using List.reverseRecOn with
  | nil => rfl
  | append_singleton history e ih =>
    rw [ofHistory_concat, List.filterMap_append, ← ih]
    cases he : e.effect <;> simp [he, record, accept, ticket, deliver, discard,
      QueueEffect.accepted?]

/-- As many discards are held as there were clears. -/
theorem length_discarded_ofHistory (history : List QueueEvent) :
    (ofHistory history).discarded.length = history.countP (·.effect.isClear) := by
  induction history using List.reverseRecOn with
  | nil => rfl
  | append_singleton history e ih =>
    rw [ofHistory_concat, List.countP_append, ← ih]
    cases he : e.effect <;> simp [he, record, accept, deliver, discard, QueueEffect.isClear]

theorem mem_waiting_of_mem_due {l : Ledger} {now most : Nat} {t : Ticket}
    (h : t ∈ l.due now most) : t ∈ l.waiting :=
  dueTickets_sublist.subset h

theorem isVisible_of_mem_due {l : Ledger} {now most : Nat} {t : Ticket}
    (h : t ∈ l.due now most) : t.message.isVisible now = true :=
  (List.mem_filter.mp (List.mem_of_mem_take h)).2

theorem mem_waiting_deliver {l : Ledger} {now most : Nat} {t : Ticket} :
    t ∈ (l.deliver now most).waiting ↔ t ∈ l.waiting ∧ t ∉ l.due now most := by
  simp [deliver]

/-- What was accepted, delivered or discarded stays so, in its place. -/
structure Lasts (l l' : Ledger) : Prop where
  accepted : l.accepted <+: l'.accepted
  delivered : l.delivered <+: l'.delivered
  discarded : l.discarded <+: l'.discarded

theorem Lasts.refl (l : Ledger) : l.Lasts l :=
  ⟨List.prefix_rfl, List.prefix_rfl, List.prefix_rfl⟩

theorem Lasts.trans {l l' l'' : Ledger} (h : l.Lasts l') (h' : l'.Lasts l'') : l.Lasts l'' :=
  ⟨h.accepted.trans h'.accepted, h.delivered.trans h'.delivered, h.discarded.trans h'.discarded⟩

theorem lasts_record (l : Ledger) (e : QueueEffect) : l.Lasts (l.record e) := by
  cases e with
  | accepted m => exact ⟨List.prefix_append _ _, List.prefix_rfl, List.prefix_rfl⟩
  | taken now most contents => exact ⟨List.prefix_rfl, List.prefix_append _ _, List.prefix_rfl⟩
  | cleared => exact ⟨List.prefix_rfl, List.prefix_rfl, List.prefix_append _ _⟩
  | nothing => exact Lasts.refl l

/-! ## What holds of every ledger -/

structure Sound (l : Ledger) : Prop where
  numbered : l.accepted.map (·.number) = List.range l.accepted.length
  kept_order : l.waiting.Sublist l.accepted
  one_place : (l.waiting ++ l.delivered.flatten ++ l.discarded.flatten).Perm l.accepted
  delivered_order : l.delivered.flatten.Pairwise fun x y => ¬y.Precedes x
  not_overtaken : ∀ x ∈ l.delivered.flatten, ∀ y ∈ l.waiting, ¬y.Precedes x

namespace Sound

variable {l : Ledger}

theorem accepted_pairwise (h : l.Sound) : l.accepted.Pairwise (·.number < ·.number) := by
  have hrange : (l.accepted.map (·.number)).Pairwise (· < ·) := by
    rw [h.numbered]
    exact List.pairwise_lt_range
  exact List.pairwise_map.mp hrange

theorem waiting_pairwise (h : l.Sound) : l.waiting.Pairwise (·.number < ·.number) :=
  h.accepted_pairwise.sublist h.kept_order

theorem waiting_nodup (h : l.Sound) : l.waiting.Nodup :=
  h.waiting_pairwise.imp fun hlt heq => by
    rw [heq] at hlt
    exact lt_irrefl _ hlt

theorem number_lt (h : l.Sound) {t : Ticket} (ht : t ∈ l.accepted) :
    t.number < l.accepted.length := by
  have hmem : t.number ∈ l.accepted.map (·.number) := List.mem_map_of_mem ht
  rw [h.numbered] at hmem
  exact List.mem_range.mp hmem

/-- The number of a ticket is its place among the accepted ones. -/
theorem getElem?_number (h : l.Sound) {t : Ticket} (ht : t ∈ l.accepted) :
    l.accepted[t.number]? = some t := by
  obtain ⟨i, hi⟩ := List.getElem?_of_mem ht
  have hnumber : (l.accepted.map (·.number))[i]? = some t.number := by
    rw [List.getElem?_map, hi, Option.map_some]
  rw [h.numbered, List.getElem?_range (List.getElem?_eq_some_iff.mp hi).1] at hnumber
  rw [← Option.some.inj hnumber]
  exact hi

theorem mem_accepted_of_mem_delivered (h : l.Sound) {t : Ticket}
    (ht : t ∈ l.delivered.flatten) : t ∈ l.accepted :=
  h.one_place.subset (List.mem_append_left _ (List.mem_append_right _ ht))

end Sound

theorem sound_empty : empty.Sound where
  numbered := rfl
  kept_order := .slnil
  one_place := .nil
  delivered_order := .nil
  not_overtaken := nofun

theorem sound_accept {l : Ledger} (h : l.Sound) (m : QueuedMessage) : (l.accept m).Sound where
  numbered := by
    simp [accept, ticket, h.numbered, List.range_succ]
  kept_order := h.kept_order.append (List.Sublist.refl _)
  one_place := by
    have hend : ((l.waiting ++ [l.ticket m]) ++ l.delivered.flatten ++ l.discarded.flatten).Perm
        ((l.waiting ++ l.delivered.flatten ++ l.discarded.flatten) ++ [l.ticket m]) := by
      simp only [List.append_assoc]
      refine List.Perm.append_left l.waiting ?_
      rw [← List.append_assoc l.delivered.flatten]
      exact List.perm_append_comm
    exact hend.trans (h.one_place.append_right [l.ticket m])
  delivered_order := h.delivered_order
  not_overtaken := by
    intro x hx y hy
    rcases List.mem_append.mp hy with hy | hy
    · exact h.not_overtaken x hx y hy
    · rintro ⟨hlt, -⟩
      have hxlt := h.number_lt (h.mem_accepted_of_mem_delivered hx)
      rw [List.mem_singleton.mp hy] at hlt
      exact absurd hlt (Nat.lt_asymm hxlt)

/-- Of two waiting tickets that are visible the one accepted first is due first. -/
theorem mem_due_of_number_lt {l : Ledger} (h : l.Sound) {now most : Nat} {x y : Ticket}
    (hx : x ∈ l.due now most) (hy : y ∈ l.waiting) (hlt : y.number < x.number)
    (hvisible : y.message.isVisible now = true) : y ∈ l.due now most := by
  have hpairwise : (l.waiting.filter (·.message.isVisible now)).Pairwise (·.number < ·.number) :=
    h.waiting_pairwise.sublist List.filter_sublist
  have hmem : y ∈ l.waiting.filter (·.message.isVisible now) := List.mem_filter.mpr ⟨hy, hvisible⟩
  rw [← List.take_append_drop most (l.waiting.filter _)] at hmem hpairwise
  rcases List.mem_append.mp hmem with hmem | hmem
  · exact hmem
  · have hgt := (List.pairwise_append.mp hpairwise).2.2 x hx y hmem
    exact absurd hgt (Nat.lt_asymm hlt)

/-- What is delivered and what then waits is what waited. -/
theorem deliver_perm {l : Ledger} (h : l.Sound) (now most : Nat) :
    ((l.deliver now most).waiting ++ l.due now most).Perm l.waiting := by
  have hdue : (l.due now most).Nodup := h.waiting_nodup.sublist dueTickets_sublist
  have hnodup : ((l.deliver now most).waiting ++ l.due now most).Nodup := by
    refine List.nodup_append.mpr ⟨h.waiting_nodup.filter _, hdue, ?_⟩
    rintro t ht u hu rfl
    exact (mem_waiting_deliver.mp ht).2 hu
  refine (List.perm_ext_iff_of_nodup hnodup h.waiting_nodup).mpr fun t => ?_
  rw [List.mem_append, mem_waiting_deliver]
  by_cases hd : t ∈ l.due now most
  · simp [hd, mem_waiting_of_mem_due hd]
  · simp [hd]

theorem sound_deliver {l : Ledger} (h : l.Sound) (now most : Nat) :
    (l.deliver now most).Sound where
  numbered := h.numbered
  kept_order := List.filter_sublist.trans h.kept_order
  one_place := by
    have hmoved : ((l.deliver now most).waiting ++ (l.delivered.flatten ++ l.due now most)).Perm
        (l.waiting ++ l.delivered.flatten) := by
      refine (List.perm_append_comm.append_left _).trans ?_
      rw [← List.append_assoc]
      exact (deliver_perm h now most).append_right _
    have hflatten : (l.deliver now most).delivered.flatten =
        l.delivered.flatten ++ l.due now most := by
      simp [deliver]
    rw [hflatten]
    exact (hmoved.append_right _).trans h.one_place
  delivered_order := by
    have hflatten : (l.deliver now most).delivered.flatten =
        l.delivered.flatten ++ l.due now most := by
      simp [deliver]
    rw [hflatten, List.pairwise_append]
    refine ⟨h.delivered_order, ?_, ?_⟩
    · have hdue : (l.due now most).Pairwise (·.number < ·.number) :=
        h.waiting_pairwise.sublist dueTickets_sublist
      exact hdue.imp fun hlt hprecedes => absurd hprecedes.1 (Nat.lt_asymm hlt)
    · intro x hx y hy
      exact h.not_overtaken x hx y (mem_waiting_of_mem_due hy)
  not_overtaken := by
    intro x hx y hy hprecedes
    obtain ⟨hwaits, hnot⟩ := mem_waiting_deliver.mp hy
    have hx' : x ∈ l.delivered.flatten ∨ x ∈ l.due now most := by
      simpa [deliver] using hx
    rcases hx' with hx' | hx'
    · exact h.not_overtaken x hx' y hwaits hprecedes
    · -- `y` is visible no later than `x` and stands before it, so it would be due as well
      have hvisible : y.message.isVisible now = true :=
        QueuedMessage.isVisible_of_le hprecedes.2 (isVisible_of_mem_due hx')
      exact hnot (mem_due_of_number_lt h hx' hwaits hprecedes.1 hvisible)

theorem sound_discard {l : Ledger} (h : l.Sound) : l.discard.Sound where
  numbered := h.numbered
  kept_order := List.nil_sublist _
  one_place := by
    have hmoved : ([] ++ l.delivered.flatten ++ (l.discarded.flatten ++ l.waiting)).Perm
        (l.waiting ++ l.delivered.flatten ++ l.discarded.flatten) := by
      rw [List.nil_append, ← List.append_assoc, List.append_assoc l.waiting]
      exact List.perm_append_comm
    have hflatten : l.discard.discarded.flatten = l.discarded.flatten ++ l.waiting := by
      simp [discard]
    rw [hflatten]
    exact hmoved.trans h.one_place
  delivered_order := h.delivered_order
  not_overtaken := nofun

theorem sound_record {l : Ledger} (h : l.Sound) (e : QueueEffect) : (l.record e).Sound := by
  cases e with
  | accepted m => exact sound_accept h m
  | taken now most contents => exact sound_deliver h now most
  | cleared => exact sound_discard h
  | nothing => exact h

theorem sound_ofHistory (history : List QueueEvent) : (ofHistory history).Sound := by
  induction history using List.reverseRecOn with
  | nil => exact sound_empty
  | append_singleton history e ih =>
    rw [ofHistory_concat]
    exact sound_record ih e.effect

end Ledger

end PlatformLink.Storage
