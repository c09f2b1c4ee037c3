import PlatformLink.Proofs.Singleton.Tasks

/-!
# What tasks have shown

The events of a task tell where it stands (`Telling`), the history counts what the cell holds
(`Balanced`), whoever got a value got the published one (`Sharing`), no run begins after one that
made a value (`Ordered`), and those who wait stand in the order in which they got in line
(`Lined`). Each of these is kept by every move, given the ones before it.
-/

namespace PlatformLink.Singleton

namespace AwaitedEvent

variable {α : Type}

/-- The number of the run that has begun. -/
def begun? : AwaitedEvent α → Option Nat
  | began _ number => some number
  | _ => none

/-- The task that got in line. -/
def waiter? : AwaitedEvent α → Option Nat
  | waited t => some t
  | _ => none

def isBegin (e : AwaitedEvent α) : Bool :=
  e.begun?.isSome

/-- Whether a run ended with a value. -/
def isSuccess : AwaitedEvent α → Bool
  | ended _ _ (.ok _) => true
  | _ => false

/-- Whether a run ended with an error. -/
def isFailure : AwaitedEvent α → Bool
  | ended _ _ (.error _) => true
  | _ => false

def isAbandonment : AwaitedEvent α → Bool
  | abandoned _ _ => true
  | _ => false

/-- Whether a run came to nothing. -/
def isLoss (e : AwaitedEvent α) : Bool :=
  e.isFailure || e.isAbandonment

end AwaitedEvent

namespace Tasks

variable {σ α : Type} {factory : AwaitedFactory σ α} {s s' : Tasks σ α}

/-! ## What a task has shown -/

/-- A task has not been in line, or it has got in line. -/
def Waits (i : Nat) (w : List (AwaitedEvent α)) : Prop :=
  w = [] ∨ w = [.waited i]

/-- What a task has shown by where it stands. -/
def Tells (i : Nat) (own : List (AwaitedEvent α)) : Option (TaskStage α) → Prop
  | none | some .fresh => own = []
  | some .queued => own = [.waited i]
  | some (.driving n _) => ∃ w, Waits i w ∧ own = w ++ [.began i n]
  | some (.finished (.ok x)) => ∃ w, Waits i w ∧ (own = w ++ [.got i (.ok x)] ∨
      own = w ++ [.began i x.run, .ended i x.run (.ok x.value), .got i (.ok x)])
  | some (.finished (.error e)) => ∃ w n, Waits i w ∧
      own = w ++ [.began i n, .ended i n (.error e), .got i (.error e)]
  | some .dropped => ∃ w, Waits i w ∧ (own = w ∨ ∃ n, own = w ++ [.began i n, .abandoned i n])

/-- Every task has shown what brought it to where it stands. -/
def Telling (s : Tasks σ α) : Prop :=
  ∀ i, Tells i (s.own i) (s.stage i)

theorem own_append (c : AwaitedCell σ α) (history events : List (AwaitedEvent α)) (i : Nat) :
    (⟨c, history ++ events⟩ : Tasks σ α).own i =
      history.filter (fun e => e.task == i) ++ events.filter (fun e => e.task == i) :=
  List.filter_append ..

theorem tells_of_end {i : Nat} {published p : Option (AwaitedInstance α)} {t t' : TaskStage α}
    {events own : List (AwaitedEvent α)} (h : TaskEnd i published t t' p events)
    (ht : Tells i own (some t)) : Tells i (own ++ events) (some t') := by
  cases h with
  | found t x hstage hp =>
    rcases hstage with rfl | rfl
    · exact ⟨[], .inl rfl, .inl (by rw [ht])⟩
    · exact ⟨[.waited i], .inr rfl, .inl (by rw [ht])⟩
  | made n r x hr =>
    obtain ⟨w, hw, rfl⟩ := ht
    exact ⟨w, hw, .inr (by simp)⟩
  | failed n r e hr =>
    obtain ⟨w, hw, rfl⟩ := ht
    exact ⟨w, n, hw, by simp⟩
  | dropped t hover =>
    cases t with
    | fresh => exact ⟨[], .inl rfl, .inl (by rw [ht]; rfl)⟩
    | queued => exact ⟨[.waited i], .inr rfl, .inl (by rw [ht]; rfl)⟩
    | driving n r =>
      obtain ⟨w, hw, rfl⟩ := ht
      exact ⟨w, hw, .inr ⟨n, by simp [TaskStage.run?]⟩⟩
    | finished _ | dropped => cases hover

theorem task_of_end {i : Nat} {published p : Option (AwaitedInstance α)} {t t' : TaskStage α}
    {events : List (AwaitedEvent α)} (h : TaskEnd i published t t' p events) :
    ∀ e ∈ events, e.task = i := by
  cases h with
  | found t x hstage hp => simp [AwaitedEvent.task]
  | made n r x hr => simp [AwaitedEvent.task]
  | failed n r e hr => simp [AwaitedEvent.task]
  | dropped t hover => cases hrun : t.run? <;> simp [AwaitedEvent.task]

/-- A task goes on and shows it. -/
theorem Telling.update (h : s.Telling) {c : AwaitedCell σ α} {i : Nat} {t t' : TaskStage α}
    {events : List (AwaitedEvent α)} (hi : s.cell.tasks[i]? = some t)
    (htasks : c.tasks = (s.cell.setTask i t').tasks) (hevents : ∀ e ∈ events, e.task = i)
    (hself : Tells i (s.own i ++ events) (some t')) : Telling ⟨c, s.history ++ events⟩ := by
  intro j
  rw [own_append, stage, htasks]
  by_cases hji : j = i
  · subst hji
    have hall : events.filter (fun e => e.task == j) = events := by
      simpa [List.filter_eq_self] using hevents
    rw [AwaitedCell.setTask_tasks_self hi, hall]
    exact hself
  · have hnone : events.filter (fun e => e.task == j) = [] := by
      refine List.filter_eq_nil_iff.mpr fun e he heq => hji ?_
      rw [← hevents e he, beq_iff_eq.mp heq]
    rw [AwaitedCell.setTask_tasks_of_ne hji, hnone, List.append_nil]
    exact h j

theorem telling_of_move (h : s.Telling) (hm : TaskMove factory s s') : s'.Telling := by
  cases hm with
  | enter =>
    intro i
    have htells := h i
    rw [stage] at *
    simp only [AwaitedCell.spawn, List.getElem?_append]
    split
    · exact htells
    · next hlt =>
      rw [List.getElem?_eq_none (Nat.le_of_not_lt hlt)] at htells
      rw [List.getElem?_singleton]
      split <;> exact htells
  | wait i hi hp hpermit =>
    have htells := h i
    rw [stage, hi] at htells
    exact h.update hi rfl (by simp [AwaitedEvent.task]) (by rw [htells]; rfl)
  | start i hi =>
    have htells := h i
    rcases hi.fresh_or_queued with hst | hst <;> rw [stage, hst] at htells
    · exact h.update hst rfl (by simp [AwaitedEvent.task]) ⟨[], .inl rfl, by rw [htells]⟩
    · exact h.update hst rfl (by simp [AwaitedEvent.task]) ⟨[.waited i], .inr rfl, by rw [htells]⟩
  | suspend i n r r' hi =>
    have htells := h i
    rw [stage, hi] at htells
    have hsame : Telling ⟨s.cell.setTask i (.driving n r'), s.history ++ []⟩ :=
      h.update hi rfl (by simp) (by rw [List.append_nil]; exact htells)
    rwa [List.append_nil] at hsame
  | finish i t t' p events hi hend =>
    have htells := h i
    rw [stage, hi] at htells
    exact h.update hi (s.cell.concluded_tasks i t' p) (task_of_end hend) (tells_of_end hend htells)

/-! ## The counts -/

def begins (s : Tasks σ α) : Nat := s.history.countP AwaitedEvent.isBegin

def successes (s : Tasks σ α) : Nat := s.history.countP AwaitedEvent.isSuccess

def failures (s : Tasks σ α) : Nat := s.history.countP AwaitedEvent.isFailure

def abandonments (s : Tasks σ α) : Nat := s.history.countP AwaitedEvent.isAbandonment

@[simp] theorem begins_append (c : AwaitedCell σ α) (history events : List (AwaitedEvent α)) :
    (⟨c, history ++ events⟩ : Tasks σ α).begins =
      history.countP AwaitedEvent.isBegin + events.countP AwaitedEvent.isBegin :=
  List.countP_append

@[simp] theorem successes_append (c : AwaitedCell σ α) (history events : List (AwaitedEvent α)) :
    (⟨c, history ++ events⟩ : Tasks σ α).successes =
      history.countP AwaitedEvent.isSuccess + events.countP AwaitedEvent.isSuccess :=
  List.countP_append

@[simp] theorem failures_append (c : AwaitedCell σ α) (history events : List (AwaitedEvent α)) :
    (⟨c, history ++ events⟩ : Tasks σ α).failures =
      history.countP AwaitedEvent.isFailure + events.countP AwaitedEvent.isFailure :=
  List.countP_append

@[simp] theorem abandonments_append (c : AwaitedCell σ α)
    (history events : List (AwaitedEvent α)) :
    (⟨c, history ++ events⟩ : Tasks σ α).abandonments =
      history.countP AwaitedEvent.isAbandonment + events.countP AwaitedEvent.isAbandonment :=
  List.countP_append

/-- What the cell holds, by the history. -/
structure Balanced (s : Tasks σ α) : Prop where
  numbers : s.history.filterMap AwaitedEvent.begun? = List.range' 1 s.cell.runs
  ended : s.begins = s.failures + s.abandonments + s.successes + s.cell.inFlight
  made : s.successes = s.cell.published.toList.length
  single : s.successes + s.cell.inFlight ≤ 1

theorem one_le_inFlight {c : AwaitedCell σ α} {i : Nat} {t : TaskStage α}
    (hi : c.tasks[i]? = some t) (ht : t.isDriving = true) : 1 ≤ c.inFlight :=
  List.countP_pos_iff.mpr ⟨t, List.mem_of_getElem? hi, ht⟩

/-- While a run is in flight nothing is published. -/
theorem Balanced.published_of_driving (h : s.Balanced) {i : Nat} {t : TaskStage α}
    (hi : s.cell.tasks[i]? = some t) (ht : t.isDriving = true) : s.cell.published = none := by
  have hmade := h.made
  have hsingle := h.single
  have hone := one_le_inFlight hi ht
  cases hp : s.cell.published with
  | none => rfl
  | some x =>
    simp only [hp, Option.toList_some, List.length_singleton] at hmade
    omega

/-- Whoever is next finds nobody at work. -/
theorem inFlight_of_next {c : AwaitedCell σ α} {i : Nat} (h : c.Seated) (hi : c.IsNext i) :
    c.inFlight = 0 := by
  refine List.countP_eq_zero.mpr fun t ht hd => ?_
  obtain ⟨j, hj⟩ := List.mem_iff_getElem?.mp ht
  cases t with
  | driving n r =>
    have hpermit := h.permit_of_driving hj
    rcases hi.turn with ⟨-, hnone⟩ | ⟨hq, hp⟩
    · rw [hnone] at hpermit
      cases hpermit
    · rw [hp] at hpermit
      cases hpermit
      rw [hq] at hj
      cases hj
  | fresh | queued | finished _ | dropped => cases hd

/-- A task that is over has begun no run at the end, and ends the one that it drove. -/
theorem counts_of_end {i : Nat} {published p : Option (AwaitedInstance α)} {t t' : TaskStage α}
    {events : List (AwaitedEvent α)} (h : TaskEnd i published t t' p events) :
    events.filterMap AwaitedEvent.begun? = [] ∧ events.countP AwaitedEvent.isBegin = 0 ∧
      events.countP AwaitedEvent.isFailure + events.countP AwaitedEvent.isAbandonment +
        events.countP AwaitedEvent.isSuccess = t.isDriving.toNat := by
  cases h with
  | found t x hstage hp => rcases hstage with rfl | rfl <;> exact ⟨rfl, rfl, rfl⟩
  | made n r x hr => exact ⟨rfl, rfl, rfl⟩
  | failed n r e hr => exact ⟨rfl, rfl, rfl⟩
  | dropped t hover => cases t <;> exact ⟨rfl, rfl, rfl⟩

/-- What is published changes with a success and with nothing else. -/
theorem published_of_end {i : Nat} {published p : Option (AwaitedInstance α)} {t t' : TaskStage α}
    {events : List (AwaitedEvent α)} (h : TaskEnd i published t t' p events) :
    events.countP AwaitedEvent.isSuccess = 0 ∧ p = published ∨
      events.countP AwaitedEvent.isSuccess = 1 ∧ t.isDriving = true ∧ p.toList.length = 1 := by
  cases h with
  | found t x hstage hp => exact .inl ⟨rfl, rfl⟩
  | made n r x hr => exact .inr ⟨rfl, rfl, rfl⟩
  | failed n r e hr => exact .inl ⟨rfl, rfl⟩
  | dropped t hover => cases t <;> exact .inl ⟨rfl, rfl⟩

/-- A run comes to nothing where its task drove it, and nothing is published then. -/
theorem driving_of_loss {i : Nat} {published p : Option (AwaitedInstance α)} {t t' : TaskStage α}
    {events : List (AwaitedEvent α)} (h : TaskEnd i published t t' p events)
    (hloss : events.any AwaitedEvent.isLoss = true) : t.isDriving = true ∧ p = published := by
  cases h with
  | found t x hstage hp => cases hloss
  | made n r x hr => cases hloss
  | failed n r e hr => exact ⟨rfl, rfl⟩
  | dropped t hover =>
    cases t with
    | driving n r => exact ⟨rfl, rfl⟩
    | fresh | queued | finished _ | dropped => cases hloss

theorem isDriving_of_isOver {t : TaskStage α} (h : t.isOver = true) : t.isDriving = false := by
  cases t with
  | finished _ | dropped => rfl
  | fresh | queued | driving _ _ => cases h

theorem Balanced.finish (h : s.Balanced) {i : Nat} {t t' : TaskStage α}
    {p : Option (AwaitedInstance α)} {events : List (AwaitedEvent α)}
    (hi : s.cell.tasks[i]? = some t) (hend : TaskEnd i s.cell.published t t' p events) :
    Balanced ⟨s.cell.concluded i t' p, s.history ++ events⟩ := by
  obtain ⟨hnumbers, hended, hmade, hsingle⟩ := h
  obtain ⟨hnone, hbegins, hends⟩ := counts_of_end hend
  have hcount : (s.cell.setTask i t').inFlight + t.isDriving.toNat =
      s.cell.inFlight + t'.isDriving.toNat := AwaitedCell.inFlight_setTask hi
  rw [isDriving_of_isOver hend.isOver, Bool.toNat_false, Nat.add_zero] at hcount
  simp only [begins, successes, failures, abandonments] at hended hmade hsingle
  have hpublished := published_of_end hend
  constructor
  case numbers => simpa [hnone] using hnumbers
  case ended =>
    simp only [begins_append, failures_append, abandonments_append, successes_append,
      AwaitedCell.inFlight_concluded]
    omega
  case made =>
    rw [successes_append, AwaitedCell.concluded_published]
    rcases hpublished with ⟨hzero, rfl⟩ | ⟨hone, hd, hlength⟩
    · omega
    · rw [hd, Bool.toNat_true] at hcount
      omega
  case single =>
    rw [successes_append, AwaitedCell.inFlight_concluded]
    rcases hpublished with ⟨hzero, -⟩ | ⟨hone, hd, -⟩
    · omega
    · rw [hd, Bool.toNat_true] at hcount
      omega

theorem Balanced.start (hseated : s.cell.Seated) (h : s.Balanced) {i : Nat}
    (hi : s.cell.IsNext i) :
    Balanced ⟨s.cell.started factory i, s.history ++ [.began i (s.cell.runs + 1)]⟩ := by
  obtain ⟨hnumbers, hended, hmade, hsingle⟩ := h
  have hzero := inFlight_of_next hseated hi
  obtain ⟨t, ht, hidle, -⟩ := AwaitedCell.exists_idle hi.fresh_or_queued
  have hcount : (s.cell.started factory i).inFlight + t.isDriving.toNat =
      s.cell.inFlight + 1 := AwaitedCell.inFlight_setTask ht
  rw [hidle, hzero, Bool.toNat_false] at hcount
  rw [hi.empty, Option.toList_none, List.length_nil] at hmade
  simp only [begins, successes, failures, abandonments] at hended hmade hsingle
  have hevents : ([.began i (s.cell.runs + 1)] : List (AwaitedEvent α)).countP
      AwaitedEvent.isSuccess = 0 := rfl
  constructor
  case numbers =>
    have hruns : (s.cell.started factory i).runs = s.cell.runs + 1 := rfl
    rw [List.filterMap_append, hnumbers, hruns, List.range'_1_concat, Nat.add_comm 1]
    rfl
  case ended =>
    have hbegins : ([.began i (s.cell.runs + 1)] : List (AwaitedEvent α)).countP
        AwaitedEvent.isBegin = 1 := rfl
    have hfailures : ([.began i (s.cell.runs + 1)] : List (AwaitedEvent α)).countP
        AwaitedEvent.isFailure = 0 := rfl
    have habandonments : ([.began i (s.cell.runs + 1)] : List (AwaitedEvent α)).countP
        AwaitedEvent.isAbandonment = 0 := rfl
    simp only [begins_append, failures_append, abandonments_append, successes_append, hbegins,
      hfailures, habandonments, hevents]
    omega
  case made =>
    have hp : (s.cell.started factory i).published = none := hi.empty
    rw [successes_append, hmade, hevents, hp]
    rfl
  case single =>
    simp only [successes_append, hmade, hevents]
    omega

theorem balanced_of_move (hseated : s.cell.Seated) (h : s.Balanced)
    (hm : TaskMove factory s s') : s'.Balanced := by
  cases hm with
  | enter =>
    have hcount : s.cell.spawn.2.inFlight = s.cell.inFlight := by
      simp [AwaitedCell.inFlight, AwaitedCell.spawn, TaskStage.isDriving]
    exact ⟨h.numbers, hcount ▸ h.ended, h.made, hcount ▸ h.single⟩
  | wait i hi hp hpermit =>
    have hcount : ({ s.cell with line := s.cell.line ++ [i] }.setTask i .queued).inFlight =
        s.cell.inFlight := AwaitedCell.inFlight_setTask hi
    have hsuccesses : (⟨{ s.cell with line := s.cell.line ++ [i] }.setTask i .queued,
        s.history ++ [.waited i]⟩ : Tasks σ α).successes = s.successes := by
      simp [successes, AwaitedEvent.isSuccess]
    constructor
    case numbers =>
      have hnone : ([.waited i] : List (AwaitedEvent α)).filterMap AwaitedEvent.begun? = [] := rfl
      rw [List.filterMap_append, hnone, List.append_nil]
      exact h.numbers
    case ended =>
      simpa [begins, failures, abandonments, successes, AwaitedEvent.isBegin, AwaitedEvent.begun?,
        AwaitedEvent.isFailure, AwaitedEvent.isAbandonment, AwaitedEvent.isSuccess, hcount]
        using h.ended
    case made => simpa [hsuccesses] using h.made
    case single => simpa [hsuccesses, hcount] using h.single
  | start i hi => exact h.start hseated hi
  | suspend i n r r' hi =>
    have hone : (s.cell.setTask i (.driving n r')).inFlight + 1 = s.cell.inFlight + 1 :=
      AwaitedCell.inFlight_setTask hi
    have hcount := Nat.add_right_cancel hone
    exact ⟨h.numbers, hcount ▸ h.ended, h.made, hcount ▸ h.single⟩
  | finish i t t' p events hi hend => exact h.finish hi hend

/-! ## The instance -/

/-- A published value stays. -/
theorem published_of_move (h : s.Balanced) (hm : TaskMove factory s s') {x : AwaitedInstance α}
    (hp : s.cell.published = some x) : s'.cell.published = some x := by
  cases hm with
  | enter => exact hp
  | wait i hi hnone hpermit => exact hp
  | start i hi => exact hp
  | suspend i n r r' hi => exact hp
  | finish i t t' p events hi hend =>
    rw [AwaitedCell.concluded_published]
    cases hend with
    | found t y hstage hy => exact hp
    | made n r y hr =>
      rw [h.published_of_driving hi rfl] at hp
      cases hp
    | failed n r e hr => exact hp
    | dropped t hover => exact hp

/-- Whoever got a value got the published one, which a run has made. -/
structure Sharing (s : Tasks σ α) : Prop where
  shared : ∀ i x, .got i (.ok x) ∈ s.history → s.cell.published = some x
  made : ∀ x, s.cell.published = some x → ∃ i, .ended i x.run (.ok x.value) ∈ s.history

theorem Sharing.append (h : s.Sharing) {c : AwaitedCell σ α} {events : List (AwaitedEvent α)}
    (hp : c.published = s.cell.published) (hevents : ∀ i x, .got i (.ok x) ∉ events) :
    Sharing ⟨c, s.history ++ events⟩ where
  shared i x hx := by
    rw [hp]
    exact h.shared i x ((List.mem_append.mp hx).resolve_right (hevents i x))
  made x hx := by
    obtain ⟨i, hi⟩ := h.made x (hp ▸ hx)
    exact ⟨i, List.mem_append_left _ hi⟩

theorem sharing_of_move (hb : s.Balanced) (h : s.Sharing) (hm : TaskMove factory s s') :
    s'.Sharing := by
  cases hm with
  | enter => exact ⟨h.shared, h.made⟩
  | wait i hi hp hpermit => exact h.append rfl (by simp)
  | start i hi => exact h.append rfl (by simp)
  | suspend i n r r' hi => exact ⟨h.shared, h.made⟩
  | finish i t t' p events hi hend =>
    cases hend with
    | found t x hstage hp =>
      constructor
      case shared =>
        intro j y hy
        rw [AwaitedCell.concluded_published]
        rcases List.mem_append.mp hy with hy | hy
        · exact h.shared j y hy
        · simp only [List.mem_singleton, AwaitedEvent.got.injEq, Except.ok.injEq] at hy
          rw [hp, hy.2]
      case made =>
        intro y hy
        obtain ⟨j, hj⟩ := h.made y (by simpa using hy)
        exact ⟨j, List.mem_append_left _ hj⟩
    | made n r x hr =>
      have hnone := hb.published_of_driving hi rfl
      constructor
      case shared =>
        intro j y hy
        rw [AwaitedCell.concluded_published]
        rcases List.mem_append.mp hy with hy | hy
        · rw [h.shared j y hy] at hnone
          cases hnone
        · simp at hy
          rw [hy.2]
      case made =>
        intro y hy
        rw [AwaitedCell.concluded_published, Option.some.injEq] at hy
        subst hy
        exact ⟨i, by simp⟩
    | failed n r e hr => exact h.append (s.cell.concluded_published ..) (by simp)
    | dropped t hover =>
      exact h.append (s.cell.concluded_published ..) (by cases hrun : t.run? <;> simp)

/-- No run begins after one that made a value. -/
def Ordered (s : Tasks σ α) : Prop :=
  s.history.Pairwise fun a b => a.isSuccess = true → b.isBegin = false

theorem Ordered.append (h : s.Ordered) {c : AwaitedCell σ α} {events : List (AwaitedEvent α)}
    (hevents : events.countP AwaitedEvent.isBegin = 0) : Ordered ⟨c, s.history ++ events⟩ := by
  have hno : ∀ e ∈ events, e.isBegin = false := by
    simpa [List.countP_eq_zero] using hevents
  refine List.pairwise_append.mpr ⟨h, ?_, fun a _ b hb _ => hno b hb⟩
  exact List.pairwise_of_forall_mem_list fun a _ b hb _ => hno b hb

theorem ordered_of_move (hb : s.Balanced) (h : s.Ordered) (hm : TaskMove factory s s') :
    s'.Ordered := by
  cases hm with
  | enter => exact h
  | wait i hi hp hpermit => exact h.append rfl
  | start i hi =>
    have hmade := hb.made
    rw [hi.empty, Option.toList_none, List.length_nil, successes, List.countP_eq_zero] at hmade
    refine List.pairwise_append.mpr ⟨h, List.pairwise_singleton _ _, fun a ha b _ hs => ?_⟩
    exact absurd hs (hmade a ha)
  | suspend i n r r' hi => exact h
  | finish i t t' p events hi hend => exact h.append (counts_of_end hend).2.1

/-! ## The order in which tasks wait -/

/-- The tasks that wait, in the order in which they got in line. -/
def waiting (s : Tasks σ α) : List Nat :=
  (s.history.filterMap AwaitedEvent.waiter?).filter s.cell.waits

/-- The tasks that wait stand in line in that order, behind the holder of the permit if it waits. -/
def Lined (s : Tasks σ α) : Prop :=
  s.waiting = s.cell.permit.toList.filter s.cell.waits ++ s.cell.line

theorem waiting_append (c : AwaitedCell σ α) (history events : List (AwaitedEvent α)) :
    (⟨c, history ++ events⟩ : Tasks σ α).waiting =
      (history.filterMap AwaitedEvent.waiter?).filter c.waits ++
        (events.filterMap AwaitedEvent.waiter?).filter c.waits := by
  rw [waiting, List.filterMap_append, List.filter_append]

theorem waits_eq_and {c : AwaitedCell σ α} {i : Nat} {t t' : TaskStage α}
    (hi : c.tasks[i]? = some t) (hq : t'.isQueued = false) (j : Nat) :
    (c.setTask i t').waits j = (decide (j ≠ i) && c.waits j) := by
  rw [AwaitedCell.waits_setTask hi, hq]
  by_cases hji : j = i <;> simp [hji]

/-- A task that goes on to another stage than waiting is no longer among those who wait. -/
theorem waiting_of_leaving {c : AwaitedCell σ α} {i : Nat} {t t' : TaskStage α}
    {events : List (AwaitedEvent α)} (hi : s.cell.tasks[i]? = some t) (hq : t'.isQueued = false)
    (htasks : c.tasks = (s.cell.setTask i t').tasks)
    (hevents : events.filterMap AwaitedEvent.waiter? = []) :
    (⟨c, s.history ++ events⟩ : Tasks σ α).waiting = s.waiting.filter (· ≠ i) := by
  have hwaits (j : Nat) : c.waits j = (s.cell.setTask i t').waits j := by
    rw [AwaitedCell.waits, htasks]
    rfl
  rw [waiting_append, hevents, List.filter_nil, List.append_nil, waiting, List.filter_filter]
  refine List.filter_congr fun j _ => ?_
  rw [hwaits, waits_eq_and hi hq]

/-- The holder of the permit stands before the line. -/
theorem filter_ne_holder {c : AwaitedCell σ α} {i : Nat} (h : c.Seated) (hp : c.permit = some i) :
    (c.permit.toList.filter c.waits ++ c.line).filter (· ≠ i) = c.line := by
  have hline : ∀ j ∈ c.line, decide (j ≠ i) = true := fun j hj =>
    decide_eq_true fun (heq : j = i) => h.permit_ne_of_mem_line hj (heq ▸ hp)
  have hhead : ([i].filter c.waits).filter (· ≠ i) = [] :=
    List.filter_eq_nil_iff.mpr fun j hj => by
      simpa using List.mem_singleton.mp (List.mem_filter.mp hj).1
  rw [hp, Option.toList_some, List.filter_append, hhead, List.filter_eq_self.mpr hline,
    List.nil_append]

/-- Nobody gets in line twice. -/
theorem notMem_waiters (h : s.Telling) {i : Nat} (hi : s.cell.tasks[i]? = some .fresh) :
    i ∉ s.history.filterMap AwaitedEvent.waiter? := by
  intro hmem
  obtain ⟨e, he, hwaiter⟩ := List.mem_filterMap.mp hmem
  have hown := h i
  rw [stage, hi] at hown
  cases e with
  | waited j =>
    cases hwaiter
    have hin : .waited i ∈ s.own i := List.mem_filter.mpr ⟨he, by simp [AwaitedEvent.task]⟩
    rw [hown] at hin
    cases hin
  | began _ _ | ended _ _ _ | abandoned _ _ | got _ _ => cases hwaiter

theorem Lined.wait (hseated : s.cell.Seated) (ht : s.Telling) (h : s.Lined) {i : Nat}
    (hi : s.cell.tasks[i]? = some .fresh) :
    Lined ⟨{ s.cell with line := s.cell.line ++ [i] }.setTask i .queued,
      s.history ++ [.waited i]⟩ := by
  have hwaits (j : Nat) : ({ s.cell with line := s.cell.line ++ [i] }.setTask i .queued).waits j =
      if j = i then true else s.cell.waits j := AwaitedCell.waits_setTask hi j
  have hsame (js : List Nat) (hmem : i ∉ js) :
      js.filter ({ s.cell with line := s.cell.line ++ [i] }.setTask i .queued).waits =
        js.filter s.cell.waits :=
    List.filter_congr fun j hj => by rw [hwaits, if_neg (ne_of_mem_of_not_mem hj hmem)]
  have hevents : ([.waited i] : List (AwaitedEvent α)).filterMap AwaitedEvent.waiter? = [i] := rfl
  have hlast : [i].filter ({ s.cell with line := s.cell.line ++ [i] }.setTask i .queued).waits =
      [i] := by
    rw [List.filter_cons_of_pos (by rw [hwaits, if_pos rfl]), List.filter_nil]
  have hpermit : i ∉ s.cell.permit.toList := by
    rw [Option.mem_toList]
    exact (hseated.outside_of_fresh hi).1
  rw [Lined, waiting_append, hsame _ (notMem_waiters ht hi), hevents, hlast]
  have hwaiting : (s.history.filterMap AwaitedEvent.waiter?).filter s.cell.waits = _ := h
  rw [hwaiting, AwaitedCell.setTask_permit, AwaitedCell.setTask_line, hsame _ hpermit,
    List.append_assoc]

theorem Lined.start (hseated : s.cell.Seated) (h : s.Lined) {i : Nat} (hi : s.cell.IsNext i) :
    Lined ⟨s.cell.started factory i, s.history ++ [.began i (s.cell.runs + 1)]⟩ := by
  obtain ⟨t, ht, -⟩ := AwaitedCell.exists_idle hi.fresh_or_queued
  have hself : (s.cell.started factory i).waits i = false :=
    (AwaitedCell.waits_setTask ht i).trans (if_pos rfl)
  have hleft : s.waiting.filter (· ≠ i) = s.cell.line := by
    rw [h]
    rcases hi.turn with ⟨-, hnone⟩ | ⟨-, hp⟩
    · rw [hnone, hseated.idle hnone]
      rfl
    · exact filter_ne_holder hseated hp
  have htasks : (s.cell.started factory i).tasks = (s.cell.setTask i
      (.driving (s.cell.runs + 1) (factory s.cell.factoryState).1)).tasks := rfl
  have hhead : (s.cell.started factory i).permit.toList.filter
      (s.cell.started factory i).waits = [] :=
    List.filter_cons_of_neg (by simp [hself])
  rw [Lined, waiting_of_leaving ht rfl htasks rfl, hleft, hhead]
  rfl

theorem Lined.finish (hseated : s.cell.Seated) (h : s.Lined) {i : Nat} {t t' : TaskStage α}
    {p : Option (AwaitedInstance α)} {events : List (AwaitedEvent α)}
    (hi : s.cell.tasks[i]? = some t) (hend : TaskEnd i s.cell.published t t' p events) :
    Lined ⟨s.cell.concluded i t' p, s.history ++ events⟩ := by
  have hq : t'.isQueued = false := by cases hend <;> rfl
  have hevents : events.filterMap AwaitedEvent.waiter? = [] := by
    cases hend with
    | found _ _ _ _ | made _ _ _ _ | failed _ _ _ _ => rfl
    | dropped t hover => cases hrun : t.run? <;> rfl
  have hwaits (j : Nat) :
      (s.cell.concluded i t' p).waits j = (decide (j ≠ i) && s.cell.waits j) := by
    rw [AwaitedCell.waits, AwaitedCell.concluded_tasks, ← waits_eq_and hi hq]
    rfl
  rw [Lined, waiting_of_leaving hi hq (s.cell.concluded_tasks i t' p) hevents, h]
  by_cases hp : s.cell.permit = some i
  · -- the first in line gets the permit, and waits for its turn
    rw [filter_ne_holder hseated hp, AwaitedCell.concluded_permit_of_permit hp,
      AwaitedCell.concluded_line_of_permit hp]
    cases hl : s.cell.line with
    | nil => rfl
    | cons k rest =>
      have hk : k ∈ s.cell.line := hl ▸ List.mem_cons_self
      have hki : k ≠ i := fun heq => hseated.permit_ne_of_mem_line hk (heq ▸ hp)
      have hwait : (s.cell.concluded i t' p).waits k = true := by
        rw [hwaits, (s.cell.waits_iff k).mpr (hseated.queued_of_mem_line hk)]
        simpa using hki
      simp [hwait]
  · rw [List.filter_append, AwaitedCell.concluded_permit_of_not_permit hp,
      AwaitedCell.concluded_line_of_not_permit hp, List.filter_filter]
    refine congrArg (· ++ _) ?_
    exact (List.filter_congr fun j _ => hwaits j).symm

theorem lined_of_move (hseated : s.cell.Seated) (ht : s.Telling) (h : s.Lined)
    (hm : TaskMove factory s s') : s'.Lined := by
  cases hm with
  | enter =>
    rw [Lined, waiting, s.cell.waits_spawn]
    exact h
  | wait i hi hp hpermit => exact h.wait hseated ht hi
  | start i hi => exact h.start hseated hi
  | suspend i n r r' hi =>
    have hwaits : (s.cell.setTask i (.driving n r')).waits = s.cell.waits := by
      funext j
      rw [AwaitedCell.waits_setTask hi]
      split
      · next hji => rw [hji, AwaitedCell.waits, hi]; rfl
      · rfl
    rw [Lined, waiting, hwaits]
    exact h
  | finish i t t' p events hi hend => exact h.finish hseated hi hend

end Tasks

end PlatformLink.Singleton
