import PlatformLink.Proofs.Histories
import PlatformLink.Proofs.Singleton.Threads

/-!
# A lazy singleton is constructed at most once

The invariant ties the holder of the lock, the stages of the threads, the cell and the history
together: the holder is the thread inside the lock (`Exclusive`), what a thread inside the lock is
about to do fits the cell (`Agreeing`), the history counts what the cell holds (`Balanced`), and
what a thread is about to give back is what its own run ended with (`Trailing`). Each part is kept
by every move, given the parts before it.
-/

namespace PlatformLink.Singleton

/-- What the published instance must be at a stage. A stored stage is never a finished one. -/
def Stage.Agrees {α : Type} (published : Option (Instance α)) : Stage α → Prop
  | .reading | .locking | .checking => True
  | .running | .publishing _ => published = none
  | .unlocking (.ok i) => published = some i
  | .unlocking _ => published = none
  | .finished _ => False

/-- Outside the lock it does not matter what is published. -/
theorem Stage.agrees_of_outside {α : Type} {st : Stage α} {p p' : Option (Instance α)}
    (h : st.Agrees p) (hi : st.isInside = false) : st.Agrees p' := by
  cases st with
  | reading | locking => trivial
  | finished r => exact h
  | checking | running | publishing i | unlocking r => simp [Stage.isInside] at hi

theorem Stage.agrees_unlocking_of_loss {α : Type} {e : RunEnd α} {r : GetResult α}
    (h : e.loss? = some r) : Stage.Agrees none (.unlocking r) := by
  cases e <;> simp [RunEnd.loss?] at h <;> subst h <;> rfl

namespace Threads

variable {σ α : Type} {factory : Factory σ α} {s s' : Threads σ α}

/-! ## The lock -/

/-- The holder of the lock is the one thread that is inside it. -/
def Exclusive (s : Threads σ α) : Prop :=
  ∀ t, s.cell.holder = some t ↔ (s.stage t).any Stage.isInside = true

theorem exclusive_moved {cell : LazyCell σ α} {t : Nat} {st : Option (Stage α)}
    {events : List (LazyEvent α)} (h : s.Exclusive) (hc : cell.holder = s.cell.holder)
    (hi : st.any Stage.isInside = (s.stage t).any Stage.isInside) :
    (s.moved cell t st events).Exclusive := by
  intro u
  rw [moved_cell, hc, h u]
  by_cases hu : u = t
  · subst hu
    rw [moved_stage_self, hi]
  · rw [moved_stage_of_ne _ _ _ _ hu]

theorem exclusive_of_move (h : s.Exclusive) (hm : Move factory s s') : s'.Exclusive := by
  cases hm with
  | lock t ht hh =>
    intro u
    by_cases hu : u = t
    · subst hu
      simp [Stage.isInside]
    · have hn := (h u).not.1 (by simp [hh])
      simp only [moved_cell, Option.some.injEq, moved_stage_of_ne _ _ _ _ hu]
      exact ⟨fun e => absurd e.symm hu, fun e => absurd e hn⟩
  | unlock t r ht =>
    have hholder := (h t).2 (by simp [ht, Stage.isInside])
    intro u
    by_cases hu : u = t
    · subst hu
      simp
    · have hn := (h u).not.1 (by rw [hholder]; simpa using Ne.symm hu)
      simpa [moved_stage_of_ne _ _ _ _ hu] using hn
  | start t ht | look t ht | ask t ht | readFound t i ht | readNothing t ht | checkFound t i ht
  | checkNothing t ht | runMade t x ht | runLost t e r ht | publish t i ht
  | publishTaken t i j ht | rest t r ht =>
    exact exclusive_moved h rfl (by simp [ht, Stage.isInside])

/-- Two threads are never inside the lock at once. -/
theorem eq_of_inside (h : s.Exclusive) {t u : Nat} {st st' : Stage α} (ht : s.stage t = some st)
    (hu : s.stage u = some st') (hi : st.isInside = true) (hi' : st'.isInside = true) : t = u := by
  have h₁ := (h t).2 (by simp [ht, hi])
  have h₂ := (h u).2 (by simp [hu, hi'])
  rw [h₁] at h₂
  exact Option.some.inj h₂

/-! ## The cell -/

def Agreeing (s : Threads σ α) : Prop :=
  ∀ t st, s.stage t = some st → st.Agrees s.cell.published

theorem agreeing_moved {cell : LazyCell σ α} {t : Nat} {st : Option (Stage α)}
    {events : List (LazyEvent α)} (h : s.Agreeing)
    (hp : cell.published = s.cell.published)
    (hst : ∀ st', st = some st' → st'.Agrees s.cell.published) :
    (s.moved cell t st events).Agreeing := by
  intro u st' hu
  rw [moved_cell, hp]
  by_cases hut : u = t
  · subst hut
    rw [moved_stage_self] at hu
    exact hst st' hu
  · rw [moved_stage_of_ne _ _ _ _ hut] at hu
    exact h u st' hu

theorem agreeing_of_move (hex : s.Exclusive) (h : s.Agreeing) (hm : Move factory s s') :
    s'.Agreeing := by
  cases hm with
  | publish t i ht hp =>
    -- the others are outside the lock, where what is published does not matter
    intro u st' hu
    by_cases hut : u = t
    · subst hut
      rw [moved_stage_self] at hu
      cases hu
      rfl
    · rw [moved_stage_of_ne _ _ _ _ hut] at hu
      cases hi : st'.isInside with
      | false => exact Stage.agrees_of_outside (h u st' hu) hi
      | true => exact absurd (eq_of_inside hex hu ht hi rfl) hut
  | start t ht | readNothing t ht hp | lock t ht hh =>
    exact agreeing_moved h rfl fun _ e => by cases e; trivial
  | look t ht | ask t ht | readFound t i ht hp | unlock t r ht | rest t r ht =>
    exact agreeing_moved h rfl fun _ e => by cases e
  | checkFound t i ht hp | checkNothing t ht hp | publishTaken t i j ht hp =>
    exact agreeing_moved h rfl fun _ e => by cases e; exact hp
  | runMade t x ht he =>
    have hp := h t _ ht
    exact agreeing_moved h rfl fun _ e => by cases e; exact hp
  | runLost t e r ht he hr =>
    have hp : s.cell.published = none := h t _ ht
    exact agreeing_moved h rfl fun _ eq => by
      cases eq
      rw [hp]
      exact Stage.agrees_unlocking_of_loss hr

/-- What is published stays. -/
theorem published_of_move (hm : Move factory s s') {i : Instance α}
    (h : s.cell.published = some i) : s'.cell.published = some i := by
  cases hm with
  | publish t j ht hp =>
    rw [hp] at h
    cases h
  | _ => exact h

/-! ## The counts -/

/-- The stage of the thread inside the lock. -/
def inside (s : Threads σ α) : Option (Stage α) :=
  s.cell.holder.bind s.stage

theorem inside_eq (h : s.Exclusive) {t : Nat} {st : Stage α} (ht : s.stage t = some st)
    (hi : st.isInside = true) : s.inside = some st := by
  have hholder := (h t).2 (by simp [ht, hi])
  simp [inside, hholder, ht]

theorem inside_moved_of_holder {cell : LazyCell σ α} {t : Nat} {st : Option (Stage α)}
    {events : List (LazyEvent α)} (h : cell.holder = some t) :
    (s.moved cell t st events).inside = st := by
  simp [inside, h]

theorem inside_moved_of_outside (h : s.Exclusive) {cell : LazyCell σ α} {t : Nat}
    {st : Option (Stage α)} {events : List (LazyEvent α)} (hc : cell.holder = s.cell.holder)
    (ht : (s.stage t).any Stage.isInside = false) :
    (s.moved cell t st events).inside = s.inside := by
  rw [inside, inside, moved_cell, hc]
  cases hh : s.cell.holder with
  | none => rfl
  | some u =>
    have hu : u ≠ t := by
      rintro rfl
      rw [(h u).1 hh] at ht
      cases ht
    exact moved_stage_of_ne _ _ _ _ hu

/-- How many runs have begun and not ended, by the stage inside the lock. -/
def openRuns : Option (Stage α) → Nat
  | some .running => 1
  | _ => 0

/-- How many values are made and not published, by the stage inside the lock. -/
def unpublished : Option (Stage α) → Nat
  | some (.publishing _) => 1
  | _ => 0

def begins (s : Threads σ α) : Nat := s.history.countP LazyEvent.isBegin

def successes (s : Threads σ α) : Nat := s.history.countP LazyEvent.isSuccess

def losses (s : Threads σ α) : Nat := s.history.countP LazyEvent.isLoss

@[simp] theorem begins_moved (s : Threads σ α) (cell : LazyCell σ α) (t : Nat)
    (st : Option (Stage α)) (events : List (LazyEvent α)) :
    (s.moved cell t st events).begins = s.begins + events.countP LazyEvent.isBegin :=
  List.countP_append

@[simp] theorem successes_moved (s : Threads σ α) (cell : LazyCell σ α) (t : Nat)
    (st : Option (Stage α)) (events : List (LazyEvent α)) :
    (s.moved cell t st events).successes = s.successes + events.countP LazyEvent.isSuccess :=
  List.countP_append

@[simp] theorem losses_moved (s : Threads σ α) (cell : LazyCell σ α) (t : Nat)
    (st : Option (Stage α)) (events : List (LazyEvent α)) :
    (s.moved cell t st events).losses = s.losses + events.countP LazyEvent.isLoss :=
  List.countP_append

/-- What the cell holds, by the history. -/
structure Balanced (s : Threads σ α) : Prop where
  runs : s.cell.runs = s.begins
  ended : s.begins = s.successes + s.losses + openRuns s.inside
  made : s.successes = s.cell.published.toList.length + unpublished s.inside

/-- A step outside the lock counts nothing. -/
theorem balanced_moved_of_outside (hex : s.Exclusive) (h : s.Balanced) {t : Nat}
    {st : Option (Stage α)} {events : List (LazyEvent α)}
    (ht : (s.stage t).any Stage.isInside = false)
    (hev : ∀ e ∈ events, e.isBegin = false ∧ e.isSuccess = false ∧ e.isLoss = false) :
    (s.moved s.cell t st events).Balanced := by
  have hin : (s.moved s.cell t st events).inside = s.inside := inside_moved_of_outside hex rfl ht
  have hb : events.countP LazyEvent.isBegin = 0 := by
    simpa [List.countP_eq_zero] using fun e he => (hev e he).1
  have hs : events.countP LazyEvent.isSuccess = 0 := by
    simpa [List.countP_eq_zero] using fun e he => (hev e he).2.1
  have hl : events.countP LazyEvent.isLoss = 0 := by
    simpa [List.countP_eq_zero] using fun e he => (hev e he).2.2
  constructor
  · simpa [hb] using h.runs
  · simpa [hb, hs, hl, hin] using h.ended
  · simpa [hs, hin] using h.made

theorem balanced_of_move (hex : s.Exclusive) (hag : s.Agreeing) (h : s.Balanced)
    (hm : Move factory s s') : s'.Balanced := by
  have hruns := h.runs
  have hended := h.ended
  have hmade := h.made
  cases hm with
  | start t ht | readNothing t ht hp =>
    exact balanced_moved_of_outside hex h (by simp [ht, Stage.isInside]) (by simp)
  | look t ht | ask t ht | readFound t i ht hp | rest t r ht =>
    exact balanced_moved_of_outside hex h (by simp [ht, Stage.isInside])
      (by simp [LazyEvent.isBegin, LazyEvent.isSuccess, LazyEvent.isLoss])
  | lock t ht hh =>
    have hin : s.inside = none := by simp [inside, hh]
    rw [hin] at hended hmade
    constructor <;> simpa [inside_moved_of_holder, openRuns, unpublished]
  | checkFound t i ht hp | publishTaken t i j ht hp =>
    have hholder := (hex t).2 (by simp [ht, Stage.isInside])
    have hpub := hag t _ ht
    rw [inside_eq hex ht rfl] at hended hmade
    simp only [openRuns, unpublished] at hended hmade
    constructor <;>
      simp_all [inside_moved_of_holder, openRuns, unpublished, Stage.Agrees]
  | checkNothing t ht hp =>
    have hholder := (hex t).2 (by simp [ht, Stage.isInside])
    rw [inside_eq hex ht rfl] at hended hmade
    simp only [openRuns, unpublished] at hended hmade
    constructor <;>
      simp [inside_moved_of_holder, hholder, openRuns, unpublished, LazyEvent.isBegin,
        LazyEvent.isSuccess, LazyEvent.isLoss] <;> omega
  | runMade t x ht he =>
    have hholder := (hex t).2 (by simp [ht, Stage.isInside])
    rw [inside_eq hex ht rfl] at hended hmade
    simp only [openRuns, unpublished] at hended hmade
    constructor <;>
      simp [inside_moved_of_holder, hholder, openRuns, unpublished, LazyEvent.isBegin,
        LazyEvent.isSuccess, LazyEvent.isLoss] <;> omega
  | runLost t e r ht he hr =>
    have hholder := (hex t).2 (by simp [ht, Stage.isInside])
    have hloss : LazyEvent.isLoss (.ended t e) = true := by
      cases e <;> first | rfl | cases hr
    have hsuccess : LazyEvent.isSuccess (.ended t e) = false := by
      cases e <;> first | rfl | cases hr
    rw [inside_eq hex ht rfl] at hended hmade
    simp only [openRuns, unpublished] at hended hmade
    constructor <;>
      simp [inside_moved_of_holder, hholder, openRuns, unpublished, LazyEvent.isBegin,
        hsuccess, hloss] <;> omega
  | publish t i ht hp =>
    have hholder := (hex t).2 (by simp [ht, Stage.isInside])
    rw [inside_eq hex ht rfl] at hended hmade
    simp only [openRuns, unpublished, hp, Option.toList_none, List.length_nil] at hended hmade
    constructor <;>
      simp [inside_moved_of_holder, hholder, openRuns, unpublished] <;> omega
  | unlock t r ht =>
    have hin : (s.moved { s.cell with holder := none } t none [.got t r]).inside = none := rfl
    rw [inside_eq hex ht rfl] at hended hmade
    constructor <;>
      simpa [hin, openRuns, unpublished, LazyEvent.isBegin, LazyEvent.isSuccess, LazyEvent.isLoss]

/-- A value that waits to be published is the first. -/
theorem successes_le_one (hag : s.Agreeing) (h : s.Balanced) : s.successes ≤ 1 := by
  have hmade := h.made
  have hlen : s.cell.published.toList.length ≤ 1 := by
    cases s.cell.published <;> simp
  cases hin : s.inside with
  | none =>
    simp only [hin, unpublished] at hmade
    omega
  | some st =>
    obtain ⟨t, -, ht⟩ := Option.bind_eq_some_iff.1 hin
    cases st with
    | publishing i =>
      have hp : s.cell.published = none := hag t _ ht
      simp only [hin, hp, unpublished, Option.toList_none, List.length_nil] at hmade
      omega
    | _ =>
      simp only [hin, unpublished] at hmade
      omega

/-! ## The trail of a thread -/

/-- How the events of a thread end when it stands at a stage. -/
def Trails (t : Nat) (own : List (LazyEvent α)) : Stage α → Prop
  | .running => ∃ before, own = before ++ [.began t]
  | .publishing i => ∃ before, own = before ++ [.began t, .ended t (.made i.value)]
  | .unlocking (.ok _) => True
  | .unlocking r => ∃ before e, e.loss? = some r ∧ own = before ++ [.began t, .ended t e]
  | _ => True

/-- What a run made or lost in its thread is what the thread is about to publish or give back. -/
def Trailing (s : Threads σ α) : Prop :=
  ∀ t st, s.stage t = some st → Trails t (s.own t) st

theorem trails_unlocking_of_loss {t : Nat} {before : List (LazyEvent α)} {e : RunEnd α}
    {r : GetResult α} (h : e.loss? = some r) :
    Trails t (before ++ [.began t, .ended t e]) (.unlocking r) := by
  cases r with
  | ok i => trivial
  | failed _ | panicked => exact ⟨before, e, h, rfl⟩

theorem own_moved_self (s : Threads σ α) (cell : LazyCell σ α) {t : Nat} (st : Option (Stage α))
    {events : List (LazyEvent α)} (h : ∀ e ∈ events, e.thread = t) :
    (s.moved cell t st events).own t = s.own t ++ events := by
  have hf : events.filter (fun e => e.thread == t) = events := by
    simpa [List.filter_eq_self] using h
  simp [own, List.filter_append, hf]

theorem own_moved_of_ne (s : Threads σ α) (cell : LazyCell σ α) {t u : Nat}
    (st : Option (Stage α)) {events : List (LazyEvent α)} (h : ∀ e ∈ events, e.thread = t)
    (hu : u ≠ t) : (s.moved cell t st events).own u = s.own u := by
  have hf : events.filter (fun e => e.thread == u) = [] := by
    rw [List.filter_eq_nil_iff]
    intro e he heq
    rw [h e he, beq_iff_eq] at heq
    exact hu heq.symm
  simp [own, List.filter_append, hf]

theorem trailing_moved (h : s.Trailing) {cell : LazyCell σ α} {t : Nat} {st : Option (Stage α)}
    {events : List (LazyEvent α)} (hev : ∀ e ∈ events, e.thread = t)
    (hst : ∀ st', st = some st' → Trails t (s.own t ++ events) st') :
    (s.moved cell t st events).Trailing := by
  intro u st' hu
  by_cases hut : u = t
  · subst hut
    rw [moved_stage_self] at hu
    rw [own_moved_self _ _ _ hev]
    exact hst st' hu
  · rw [moved_stage_of_ne _ _ _ _ hut] at hu
    rw [own_moved_of_ne _ _ _ hev hut]
    exact h u st' hu

theorem trailing_of_move (h : s.Trailing) (hm : Move factory s s') : s'.Trailing := by
  cases hm with
  | start t ht | readNothing t ht hp | lock t ht hh | checkFound t i ht hp | publish t i ht hp
  | publishTaken t i j ht hp =>
    exact trailing_moved h (by simp) fun _ e => by cases e; trivial
  | look t ht | ask t ht | readFound t i ht hp | unlock t r ht | rest t r ht =>
    exact trailing_moved h (by simp [LazyEvent.thread]) fun _ e => by cases e
  | checkNothing t ht hp =>
    exact trailing_moved h (by simp [LazyEvent.thread]) fun _ e => by
      cases e
      exact ⟨_, rfl⟩
  | runMade t x ht he =>
    obtain ⟨before, hown⟩ := h t _ ht
    exact trailing_moved h (by simp [LazyEvent.thread]) fun _ e => by
      cases e
      exact ⟨before, by simp [hown]⟩
  | runLost t e r ht he hr =>
    obtain ⟨before, hown⟩ := h t _ ht
    exact trailing_moved h (by simp [LazyEvent.thread]) fun _ eq => by
      cases eq
      rw [hown, List.append_assoc]
      exact trails_unlocking_of_loss hr

/-- The published instance is what a run ended with. -/
def Sourced (s : Threads σ α) : Prop :=
  ∀ i, s.cell.published = some i → ∃ t, .ended t (.made i.value) ∈ s.history

theorem mem_history_of_mem_own {t : Nat} {e : LazyEvent α} (h : e ∈ s.own t) : e ∈ s.history :=
  (List.mem_filter.1 h).1

theorem sourced_of_move (htr : s.Trailing) (h : s.Sourced) (hm : Move factory s s') :
    s'.Sourced := by
  intro i hi
  cases hm with
  | publish t j ht hp =>
    cases hi
    obtain ⟨before, hown⟩ := htr t _ ht
    have hmem : LazyEvent.ended t (.made i.value) ∈ s.own t := by simp [hown]
    exact ⟨t, List.mem_append_left _ (mem_history_of_mem_own hmem)⟩
  | _ =>
    obtain ⟨t, hmem⟩ := h i hi
    exact ⟨t, List.mem_append_left _ hmem⟩

/-! ## The history -/

/-- How an event fits the threads before and after the step that adds it. -/
def Fits (s s' : Threads σ α) : LazyEvent α → Prop
  | .began _ => s.successes = 0
  | .ended _ (.made _) => True
  | .ended _ _ => s'.cell.published = none
  | .got _ (.ok i) => s'.cell.published = some i
  | .got t r => s'.cell.published = none ∧ s'.cell.holder = none ∧ Trails t (s.own t) (.unlocking r)
  | .looked _ i => s'.cell.published = i
  | .asked _ b => s'.cell.isInitialized = b

/-- A move adds at most one event, which fits. -/
theorem history_of_move (hex : s.Exclusive) (hag : s.Agreeing) (hb : s.Balanced)
    (htr : s.Trailing) (hm : Move factory s s') :
    s'.history = s.history ∨ ∃ e, s'.history = s.history ++ [e] ∧ Fits s s' e := by
  cases hm with
  | start t ht | readNothing t ht hp | lock t ht hh | checkFound t i ht hp | publish t i ht hp
  | publishTaken t i j ht hp =>
    left
    exact List.append_nil _
  | look t ht | ask t ht => exact Or.inr ⟨_, rfl, rfl⟩
  | readFound t i ht hp => exact Or.inr ⟨_, rfl, hp⟩
  | checkNothing t ht hp =>
    have hmade := hb.made
    rw [inside_eq hex ht rfl, hp] at hmade
    exact Or.inr ⟨_, rfl, hmade⟩
  | runMade t x ht he => exact Or.inr ⟨_, rfl, trivial⟩
  | runLost t e r ht he hr =>
    have hp : s.cell.published = none := hag t _ ht
    refine Or.inr ⟨_, rfl, ?_⟩
    cases e with
    | made x => cases hr
    | failed e => exact hp
    | panicked => exact hp
  | unlock t r ht =>
    have hp := hag t _ ht
    refine Or.inr ⟨_, rfl, ?_⟩
    cases r with
    | ok i => exact hp
    | failed e => exact ⟨hp, rfl, htr t _ ht⟩
    | panicked => exact ⟨hp, rfl, htr t _ ht⟩
  | rest t r ht => exact (hag t _ ht).elim

/-- What the events tell of the cell, and in which order they stand. -/
structure Ordered (s : Threads σ α) : Prop where
  begins : s.history.Pairwise fun a b => a.isSuccess = true → b.isBegin = false
  seen : s.history.Pairwise fun a b => a.seen? = some true → b.seen? ≠ some false
  initialized : ∀ e ∈ s.history, e.seen? = some true → s.cell.isInitialized = true
  shared : ∀ e ∈ s.history, ∀ i, e.instance? = some i → s.cell.published = some i

theorem isInitialized_of_move (hm : Move factory s s') (h : s.cell.isInitialized = true) :
    s'.cell.isInitialized = true := by
  obtain ⟨i, hi⟩ := Option.isSome_iff_exists.1 h
  simp [LazyCell.isInitialized, published_of_move hm hi]

theorem isInitialized_of_fits {e : LazyEvent α} {b : Bool} (h : Fits s s' e)
    (hb : e.seen? = some b) : s'.cell.isInitialized = b := by
  cases e with
  | got t r => cases r <;> simp_all [LazyEvent.seen?, Fits, LazyCell.isInitialized]
  | looked t i => simp_all [LazyEvent.seen?, Fits, LazyCell.isInitialized]
  | asked t c => simp_all [LazyEvent.seen?, Fits]
  | began t | ended t r => cases hb

theorem published_of_fits {e : LazyEvent α} {i : Instance α} (h : Fits s s' e)
    (hi : e.instance? = some i) : s'.cell.published = some i := by
  cases e with
  | got t r => cases r <;> simp_all [LazyEvent.instance?, Fits]
  | looked t j => simp_all [LazyEvent.instance?, Fits]
  | began t | ended t r | asked t b => cases hi

theorem isBegin_eq_false_of_fits {a e : LazyEvent α} (h : Fits s s' e) (ha : a ∈ s.history)
    (hs : a.isSuccess = true) : e.isBegin = false := by
  cases e with
  | began t => exact absurd hs (List.countP_eq_zero.1 h a ha)
  | ended t r | got t r | looked t i | asked t b => rfl

theorem ordered_of_move (hex : s.Exclusive) (hag : s.Agreeing) (hb : s.Balanced)
    (htr : s.Trailing) (h : s.Ordered) (hm : Move factory s s') : s'.Ordered := by
  have hinit : ∀ e ∈ s.history, e.seen? = some true → s'.cell.isInitialized = true :=
    fun e he hs => isInitialized_of_move hm (h.initialized e he hs)
  have hshared : ∀ e ∈ s.history, ∀ i, e.instance? = some i → s'.cell.published = some i :=
    fun e he i hi => published_of_move hm (h.shared e he i hi)
  rcases history_of_move hex hag hb htr hm with heq | ⟨e, heq, hfit⟩
  · constructor <;> rw [heq]
    · exact h.begins
    · exact h.seen
    · exact hinit
    · exact hshared
  · constructor <;> rw [heq]
    · rw [List.pairwise_append]
      refine ⟨h.begins, List.pairwise_singleton _ _, fun a ha b hbe hs => ?_⟩
      cases List.mem_singleton.1 hbe
      exact isBegin_eq_false_of_fits hfit ha hs
    · rw [List.pairwise_append]
      refine ⟨h.seen, List.pairwise_singleton _ _, fun a ha b hbe hs hf => ?_⟩
      cases List.mem_singleton.1 hbe
      have hfalse := isInitialized_of_fits hfit hf
      rw [hinit a ha hs] at hfalse
      cases hfalse
    · intro a ha hs
      rcases List.mem_append.1 ha with ha | ha
      · exact hinit a ha hs
      · cases List.mem_singleton.1 ha
        exact isInitialized_of_fits hfit hs
    · intro a ha i hi
      rcases List.mem_append.1 ha with ha | ha
      · exact hshared a ha i hi
      · cases List.mem_singleton.1 ha
        exact published_of_fits hfit hi

/-- A call that gave back a loss had begun a run itself, and that run ended so. -/
def Explained (s : Threads σ α) : Prop :=
  ∀ t r before after, s.own t = before ++ .got t r :: after → (∀ i, r ≠ .ok i) →
    ∃ earlier e, e.loss? = some r ∧ before = earlier ++ [.began t, .ended t e]

theorem own_of_history {e : LazyEvent α} (h : s'.history = s.history ++ [e]) (t : Nat) :
    s'.own t = s.own t ∨ e.thread = t ∧ s'.own t = s.own t ++ [e] := by
  by_cases he : e.thread = t
  · right
    simp [own, h, List.filter_append, he]
  · left
    simp [own, h, List.filter_append, he]

theorem explained_of_move (hex : s.Exclusive) (hag : s.Agreeing) (hb : s.Balanced)
    (htr : s.Trailing) (h : s.Explained) (hm : Move factory s s') : s'.Explained := by
  intro t r before after hown hr
  rcases history_of_move hex hag hb htr hm with heq | ⟨e, heq, hfit⟩
  · refine h t r before after ?_ hr
    rw [← hown, own, own, heq]
  · rcases own_of_history heq t with hsame | ⟨-, hnew⟩
    · exact h t r before after (hsame ▸ hown) hr
    · rw [hnew] at hown
      rcases concat_eq_append_cons_iff.mp hown with ⟨rfl, rfl, -⟩ | ⟨rest, -, hold⟩
      · -- the loss is the new event
        cases r with
        | ok i => exact absurd rfl (hr i)
        | failed e => exact hfit.2.2
        | panicked => exact hfit.2.2
      · exact h t r before rest hold hr

/-! ## Every run -/

/-- What holds of threads after every step. -/
structure Consistent (s : Threads σ α) : Prop where
  exclusive : s.Exclusive
  agreeing : s.Agreeing
  balanced : s.Balanced
  trailing : s.Trailing
  sourced : s.Sourced
  ordered : s.Ordered
  explained : s.Explained

theorem consistent_new (start : σ) : (new start : Threads σ α).Consistent where
  exclusive t := by simp [new, LazyCell.new]
  agreeing t st h := by cases h
  balanced := ⟨rfl, rfl, rfl⟩
  trailing t st h := by cases h
  sourced i h := by cases h
  ordered := ⟨.nil, .nil, by simp [new], by simp [new]⟩
  explained t r before after h := by simp [new, own] at h

theorem consistent_of_move (h : s.Consistent) (hm : Move factory s s') : s'.Consistent :=
  have hex := h.exclusive
  have hag := h.agreeing
  have hb := h.balanced
  have htr := h.trailing
  ⟨exclusive_of_move hex hm, agreeing_of_move hex hag hm, balanced_of_move hex hag hb hm,
    trailing_of_move htr hm, sourced_of_move htr h.sourced hm,
    ordered_of_move hex hag hb htr h.ordered hm, explained_of_move hex hag hb htr h.explained hm⟩

theorem consistent_run (factory : Factory σ α) (start : σ) (schedule : List LazyAction) :
    ((new start).run factory schedule).Consistent :=
  run_induction (fun _ _ h hm => consistent_of_move h hm) (consistent_new start) schedule

/-- The threads over a new cell after a schedule. -/
def after (factory : Factory σ α) (start : σ) (schedule : List LazyAction) : Threads σ α :=
  (new start).run factory schedule

theorem after_concat_eq_or_move (factory : Factory σ α) (start : σ) (schedule : List LazyAction)
    (a : LazyAction) :
    after factory start (schedule ++ [a]) = after factory start schedule ∨
      Move factory (after factory start schedule) (after factory start (schedule ++ [a])) := by
  rw [after, after, run_concat]
  exact step_eq_or_move factory _ a

/-- The event that a step adds fits the threads before and after it. -/
theorem fits_of_history {factory : Factory σ α} {start : σ} {schedule : List LazyAction}
    {a : LazyAction} {e : LazyEvent α}
    (h : (after factory start (schedule ++ [a])).history =
      (after factory start schedule).history ++ [e]) :
    Fits (after factory start schedule) (after factory start (schedule ++ [a])) e := by
  have hc : (after factory start schedule).Consistent := consistent_run factory start schedule
  rcases after_concat_eq_or_move factory start schedule a with heq | hm
  · rw [heq] at h
    simp at h
  · rcases history_of_move hc.exclusive hc.agreeing hc.balanced hc.trailing hm with
      heq | ⟨x, hx, hfit⟩
    · rw [heq] at h
      simp at h
    · rw [hx] at h
      cases List.singleton_inj.1 (List.append_cancel_left h)
      exact hfit

/-- At most one construction, over all schedules of any number of threads. -/
structure ConstructsAtMostOnce (factory : Factory σ α) (start : σ) : Prop where
  /-- Runs of the factory never overlap. -/
  no_overlap : ∀ schedule t u, (after factory start schedule).stage t = some .running →
    (after factory start schedule).stage u = some .running → t = u
  /-- At most one run ends with a value, and no run begins after it. -/
  one_success : ∀ schedule, (after factory start schedule).successes ≤ 1
  no_begin_after_success : ∀ schedule, (after factory start schedule).history.Pairwise
    fun a b => a.isSuccess = true → b.isBegin = false
  /-- Whoever gets an instance gets the published one, which that run made. -/
  one_instance : ∀ schedule, ∀ e ∈ (after factory start schedule).history, ∀ i,
    e.instance? = some i → (after factory start schedule).cell.published = some i
  made_by_run : ∀ schedule i, (after factory start schedule).cell.published = some i →
    ∃ t, .ended t (.made i.value) ∈ (after factory start schedule).history
  /-- An initialized cell stays so, with its instance, and no answer says otherwise. -/
  stays_published : ∀ schedule more i, (after factory start schedule).cell.published = some i →
    (after factory start (schedule ++ more)).cell.published = some i
  stays_seen : ∀ schedule, (after factory start schedule).history.Pairwise
    fun a b => a.seen? = some true → b.seen? ≠ some false
  /-- A call that fails or panics began a run itself, its last event but one, which ended so. -/
  loss_by_own_run : ∀ schedule t r before rest,
    (after factory start schedule).own t = before ++ .got t r :: rest → (∀ i, r ≠ .ok i) →
    ∃ earlier e, e.loss? = some r ∧ before = earlier ++ [.began t, .ended t e]
  /-- A run that made nothing leaves the cell empty, and its call leaves the lock free. -/
  empty_after_loss : ∀ schedule a t e, e.loss?.isSome = true →
    (after factory start (schedule ++ [a])).history =
      (after factory start schedule).history ++ [.ended t e] →
    (after factory start (schedule ++ [a])).cell.published = none
  free_after_loss : ∀ schedule a t r, (∀ i, r ≠ .ok i) →
    (after factory start (schedule ++ [a])).history =
      (after factory start schedule).history ++ [.got t r] →
    (after factory start (schedule ++ [a])).cell.published = none ∧
      (after factory start (schedule ++ [a])).cell.holder = none
  /-- Between calls every run is accounted for, and the lock is free. -/
  runs_at_rest : ∀ schedule, (after factory start schedule).Quiescent →
    (after factory start schedule).begins = (after factory start schedule).losses +
      (if (after factory start schedule).cell.isInitialized then 1 else 0) ∧
    (after factory start schedule).cell.holder = none

theorem published_of_run {i : Instance α} (factory : Factory σ α) (s : Threads σ α)
    (more : List LazyAction) (h : s.cell.published = some i) :
    (s.run factory more).cell.published = some i :=
  run_induction (fun _ _ h hm => published_of_move hm h) h more

theorem holder_of_quiescent (hex : s.Exclusive) (hq : s.Quiescent) : s.cell.holder = none := by
  cases hh : s.cell.holder with
  | none => rfl
  | some t =>
    have hin := (hex t).1 hh
    simp [hq t] at hin

theorem begins_of_quiescent (hex : s.Exclusive) (hb : s.Balanced) (hq : s.Quiescent) :
    s.begins = s.losses + (if s.cell.isInitialized then 1 else 0) := by
  have hin : s.inside = none := by simp [inside, holder_of_quiescent hex hq]
  have hended := hb.ended
  have hmade := hb.made
  rw [hin] at hended hmade
  cases hp : s.cell.published with
  | none =>
    simp only [hp, openRuns, unpublished, Option.toList_none, List.length_nil] at hended hmade
    simp [LazyCell.isInitialized, hp]
    omega
  | some i =>
    simp only [hp, openRuns, unpublished, Option.toList_some, List.length_singleton] at hended hmade
    simp [LazyCell.isInitialized, hp]
    omega

/-- A lazy singleton is constructed at most once, whatever its factory does and however many threads
call it in whatever order of steps. -/
theorem constructs_at_most_once (factory : Factory σ α) (start : σ) :
    ConstructsAtMostOnce factory start := by
  have hc : ∀ schedule, (after factory start schedule).Consistent :=
    fun schedule => consistent_run factory start schedule
  constructor
  case no_overlap =>
    intro schedule t u ht hu
    exact eq_of_inside (hc schedule).exclusive ht hu rfl rfl
  case one_success =>
    intro schedule
    exact successes_le_one (hc schedule).agreeing (hc schedule).balanced
  case no_begin_after_success =>
    intro schedule
    exact (hc schedule).ordered.begins
  case one_instance =>
    intro schedule
    exact (hc schedule).ordered.shared
  case made_by_run =>
    intro schedule
    exact (hc schedule).sourced
  case stays_published =>
    intro schedule more i h
    rw [after, run_append]
    exact published_of_run factory _ more h
  case stays_seen =>
    intro schedule
    exact (hc schedule).ordered.seen
  case loss_by_own_run =>
    intro schedule
    exact (hc schedule).explained
  case empty_after_loss =>
    intro schedule a t e he h
    have hfit := fits_of_history h
    cases e with
    | made x => cases he
    | failed e => exact hfit
    | panicked => exact hfit
  case free_after_loss =>
    intro schedule a t r hr h
    have hfit := fits_of_history h
    cases r with
    | ok i => exact absurd rfl (hr i)
    | failed e => exact ⟨hfit.1, hfit.2.1⟩
    | panicked => exact ⟨hfit.1, hfit.2.1⟩
  case runs_at_rest =>
    intro schedule hq
    have hex := (hc schedule).exclusive
    exact ⟨begins_of_quiescent hex (hc schedule).balanced hq, holder_of_quiescent hex hq⟩

-- the factory panics in thread 0 while thread 1 waits for the lock and runs it again
example :
    (after (fun n => if n = 0 then (.panicked, 1) else (.made n, n + 1)) 0
      ([.call 0 .get, .call 1 .get] ++ [0, 1, 0, 1, 0, 0, 1, 0, 1, 1, 1, 1, 1].map .advance ++
        [.call 0 .isInitialized])).history =
      [.began 0, .ended 0 .panicked, .got 0 .panicked, .began 1, .ended 1 (.made 1),
        .got 1 (.ok ⟨2, 1⟩), .asked 0 true] := by
  decide

end Threads

end PlatformLink.Singleton
