import PlatformLink.Proofs.Singleton.TaskHistory

/-!
# An awaited singleton is constructed by one task at a time

After every schedule the history of the tasks and their cell agree (`Consistent`). A run that fails
or is abandoned counts as begun and leaves the cell as it was, so the next in line, or the next to
come where nobody waits, begins another.
-/

namespace PlatformLink.Singleton

namespace Tasks

variable {σ α : Type} {factory : AwaitedFactory σ α} {s s' : Tasks σ α}

/-! ## Every schedule -/

/-- What holds of tasks after every step. -/
structure Consistent (s : Tasks σ α) : Prop where
  seated : s.cell.Seated
  telling : s.Telling
  balanced : s.Balanced
  sharing : s.Sharing
  ordered : s.Ordered
  lined : s.Lined

theorem consistent_new (start : σ) : (new start : Tasks σ α).Consistent where
  seated := .new start
  telling i := by simp [new, stage, AwaitedCell.new, own, Tells]
  balanced := ⟨rfl, rfl, rfl, Nat.zero_le 1⟩
  sharing := ⟨fun _ _ h => absurd h List.not_mem_nil, fun _ h => by cases h⟩
  ordered := .nil
  lined := rfl

theorem consistent_of_move (h : s.Consistent) (hm : TaskMove factory s s') : s'.Consistent :=
  ⟨seated_of_move h.seated hm, telling_of_move h.telling hm,
    balanced_of_move h.seated h.balanced hm, sharing_of_move h.balanced h.sharing hm,
    ordered_of_move h.balanced h.ordered hm, lined_of_move h.seated h.telling h.lined hm⟩

theorem consistent_of_step (h : s.Consistent) (a : TaskAction) :
    (s.step factory a).Consistent := by
  rcases step_eq_or_moves factory h.seated a with heq | hm | ⟨i, hi, hm⟩
  · rwa [heq]
  · exact consistent_of_move h hm
  · exact consistent_of_move (consistent_of_move h (.start i hi)) hm

theorem consistent_after (factory : AwaitedFactory σ α) (start : σ) (schedule : List TaskAction) :
    (after factory start schedule).Consistent := by
  induction schedule using List.reverseRecOn with
  | nil => exact consistent_new start
  | append_singleton schedule a ih =>
    rw [after_concat]
    exact consistent_of_step ih a

theorem published_of_step (h : s.Consistent) (a : TaskAction) {x : AwaitedInstance α}
    (hp : s.cell.published = some x) : (s.step factory a).cell.published = some x := by
  rcases step_eq_or_moves factory h.seated a with heq | hm | ⟨i, hi, -⟩
  · rwa [heq]
  · exact published_of_move h.balanced hm hp
  · rw [hi.empty] at hp
    cases hp

theorem published_after_append {start : σ} (schedule more : List TaskAction)
    {x : AwaitedInstance α} (hp : (after factory start schedule).cell.published = some x) :
    (after factory start (schedule ++ more)).cell.published = some x := by
  induction more using List.reverseRecOn with
  | nil => rwa [List.append_nil]
  | append_singleton more a ih =>
    rw [← List.append_assoc, after_concat]
    exact published_of_step (consistent_after factory start _) a ih

/-! ## Runs that come to nothing -/

/-- What a move shows; a run that comes to nothing leaves nothing in flight and nothing
published. -/
theorem empty_of_move (hb : s.Balanced) (hm : TaskMove factory s s') :
    ∃ new, s'.history = s.history ++ new ∧ (new.any AwaitedEvent.isLoss = true →
      s'.cell.published = none ∧ s'.cell.inFlight = 0) := by
  cases hm with
  | enter => exact ⟨[], (List.append_nil _).symm, nofun⟩
  | wait i hi hp hpermit => exact ⟨_, rfl, nofun⟩
  | start i hi => exact ⟨_, rfl, nofun⟩
  | suspend i n r r' hi => exact ⟨[], (List.append_nil _).symm, nofun⟩
  | finish i t t' p events hi hend =>
    refine ⟨events, rfl, fun hloss => ?_⟩
    obtain ⟨hdriving, rfl⟩ := driving_of_loss hend hloss
    -- the only run in flight is the one that ends
    have hcount : (s.cell.setTask i t').inFlight + t.isDriving.toNat =
        s.cell.inFlight + t'.isDriving.toNat := AwaitedCell.inFlight_setTask hi
    have hsingle := hb.single
    rw [isDriving_of_isOver hend.isOver, hdriving, Bool.toNat_false, Bool.toNat_true] at hcount
    rw [AwaitedCell.concluded_published, AwaitedCell.inFlight_concluded]
    exact ⟨hb.published_of_driving hi hdriving, by omega⟩

theorem empty_of_step (factory : AwaitedFactory σ α) (h : s.Consistent) (a : TaskAction) :
    ∃ new, (s.step factory a).history = s.history ++ new ∧ (new.any AwaitedEvent.isLoss = true →
      (s.step factory a).cell.published = none ∧ (s.step factory a).cell.inFlight = 0) := by
  rcases step_eq_or_moves factory h.seated a with heq | hm | ⟨i, hi, hm⟩
  · rw [heq]
    exact ⟨[], (List.append_nil _).symm, nofun⟩
  · exact empty_of_move h.balanced hm
  · obtain ⟨new, hnew, hempty⟩ := empty_of_move (h.balanced.start h.seated hi) hm
    exact ⟨.began i (s.cell.runs + 1) :: new, by simpa using hnew, hempty⟩

/-- Where nothing is in flight, the holder of the permit waits for its turn. -/
theorem queued_of_permit (h : s.Consistent) (hidle : s.cell.inFlight = 0) {i : Nat}
    (hp : s.cell.permit = some i) : s.cell.tasks[i]? = some .queued := by
  rcases h.seated.stage_of_permit hp with hq | ⟨n, r, hd⟩
  · exact hq
  · have hone := one_le_inFlight hd rfl
    omega

/-- Where nothing is in flight, the first of those who wait holds the permit. -/
theorem permit_eq_head (h : s.Consistent) (hidle : s.cell.inFlight = 0) :
    s.cell.permit = s.waiting.head? := by
  have hlined := h.lined
  rw [Lined] at hlined
  cases hp : s.cell.permit with
  | none =>
    rw [hp, h.seated.idle hp] at hlined
    rw [hlined]
    rfl
  | some i =>
    have hwaits : s.cell.waits i = true := (s.cell.waits_iff i).mpr (queued_of_permit h hidle hp)
    rw [hlined, hp, Option.toList_some, List.filter_cons_of_pos hwaits]
    rfl

/-- Who begins a run when given a turn: the first of those who wait, or whoever comes where nobody
waits. -/
theorem isNext_iff (h : s.Consistent) (hempty : s.cell.published = none)
    (hidle : s.cell.inFlight = 0) (i : Nat) : s.cell.IsNext i ↔
      s.waiting.head? = some i ∨ s.waiting = [] ∧ s.stage i = some .fresh := by
  have hhead := permit_eq_head h hidle
  constructor
  · intro hi
    rcases hi.turn with ⟨hf, hnone⟩ | ⟨-, hp⟩
    · exact .inr ⟨List.head?_eq_none_iff.mp (hhead ▸ hnone), hf⟩
    · exact .inl (hhead ▸ hp)
  · rintro (hfirst | ⟨hnobody, hf⟩)
    · have hp : s.cell.permit = some i := hhead.trans hfirst
      exact ⟨hempty, .inr ⟨queued_of_permit h hidle hp, hp⟩⟩
    · exact ⟨hempty, .inl ⟨hf, by rw [hhead, hnobody]; rfl⟩⟩

theorem isNext_of_move {i n : Nat} {more : List (AwaitedEvent α)} (hm : TaskMove factory s s')
    (hmore : s'.history = s.history ++ .began i n :: more) : s.cell.IsNext i := by
  cases hm with
  | enter => simp at hmore
  | wait j hj hp hpermit => cases List.append_cancel_left hmore
  | start j hj =>
    cases List.append_cancel_left hmore
    exact hj
  | suspend j n r r' hj => simp at hmore
  | finish j t t' p events hj hend =>
    have hevents : events = .began i n :: more := List.append_cancel_left hmore
    have hbegins := (counts_of_end hend).2.1
    rw [hevents, List.countP_cons_of_pos rfl] at hbegins
    cases hbegins

/-- A turn shows the begin of a run just where the task is next. -/
theorem begins_iff (h : s.Consistent) (i : Nat) :
    (∃ more, (s.step factory (.poll i)).history =
      s.history ++ .began i (s.cell.runs + 1) :: more) ↔ s.cell.IsNext i := by
  constructor
  · rintro ⟨more, hmore⟩
    rcases poll_eq_or_move factory h.seated i with heq | hm | ⟨hi, -⟩
    · rw [heq] at hmore
      simp at hmore
    · exact isNext_of_move hm hmore
    · exact hi
  · intro hi
    rw [step, pollEvents_of_next hi]
    exact ⟨_, rfl⟩

/-- Whoever gets an error got it of the run that it drove. -/
theorem got_of_telling (h : s.Telling) {i : Nat} {e : LinkError}
    (he : .got i (.error e) ∈ s.history) : ∃ w n, Waits i w ∧
      s.own i = w ++ [.began i n, .ended i n (.error e), .got i (.error e)] := by
  have hown : .got i (.error e) ∈ s.own i := List.mem_filter.mpr ⟨he, by simp [AwaitedEvent.task]⟩
  have htells := h i
  cases hst : s.stage i with
  | none =>
    rw [hst] at htells
    rw [htells] at hown
    cases hown
  | some t =>
    rw [hst] at htells
    cases t with
    | fresh =>
      rw [htells] at hown
      cases hown
    | queued =>
      have hwaited : s.own i = [.waited i] := htells
      simp [hwaited] at hown
    | driving n r =>
      obtain ⟨w, rfl | rfl, hw⟩ := htells <;> simp [hw] at hown
    | finished o =>
      cases o with
      | ok x => obtain ⟨w, rfl | rfl, hw | hw⟩ := htells <;> simp [hw] at hown
      | error e' =>
        obtain ⟨w, n, hw, heq⟩ := htells
        have hsame : e = e' := by
          rcases hw with rfl | rfl <;> simpa [heq] using hown
        subst hsame
        exact ⟨w, n, hw, heq⟩
    | dropped => obtain ⟨w, rfl | rfl, hw | ⟨n, hw⟩⟩ := htells <;> simp [hw] at hown

/-! ## One at a time -/

/-- One construction at a time and at most one in the end, over all schedules of any number of
tasks. -/
structure ConstructsOneAtATime (factory : AwaitedFactory σ α) (start : σ) : Prop where
  /-- At most one run of the factory is in flight. -/
  one_in_flight : ∀ schedule, (after factory start schedule).cell.inFlight ≤ 1
  /-- At most one run ends with a value, and no run begins after it. -/
  one_success : ∀ schedule, (after factory start schedule).successes ≤ 1
  no_begin_after_success : ∀ schedule, (after factory start schedule).history.Pairwise
    fun a b => a.isSuccess = true → b.isBegin = false
  /-- Whoever gets a value gets the published one, which that run has made, and which stays; a task
  that comes later or waits has it as soon as it is given a turn. -/
  one_instance : ∀ schedule i x, .got i (.ok x) ∈ (after factory start schedule).history →
    (after factory start schedule).cell.published = some x
  made_by_run : ∀ schedule x, (after factory start schedule).cell.published = some x →
    ∃ i, .ended i x.run (.ok x.value) ∈ (after factory start schedule).history
  found_when_published : ∀ schedule i x, (after factory start schedule).cell.published = some x →
    ((after factory start schedule).stage i = some .fresh ∨
      (after factory start schedule).stage i = some .queued) →
    .got i (.ok x) ∈ (after factory start (schedule ++ [.poll i])).history
  stays_published : ∀ schedule more x, (after factory start schedule).cell.published = some x →
    (after factory start (schedule ++ more)).cell.published = some x
  /-- A task gets an error of the run that it drove itself, and of no other. -/
  error_by_own_run : ∀ schedule i e, .got i (.error e) ∈ (after factory start schedule).history →
    ∃ waited number, Waits i waited ∧ (after factory start schedule).own i =
      waited ++ [.began i number, .ended i number (.error e), .got i (.error e)]
  /-- A run that fails or is abandoned leaves the cell empty. -/
  empty_after_loss : ∀ schedule a new, (after factory start (schedule ++ [a])).history =
      (after factory start schedule).history ++ new → ∀ e ∈ new, e.isLoss = true →
    (after factory start (schedule ++ [a])).cell.isInitialized = false ∧
      (after factory start (schedule ++ [a])).cell.inFlight = 0
  /-- In an empty cell the first of those who wait begins a run when it is given a turn, or where
  nobody waits, whoever comes; nobody else does. -/
  begins_anew : ∀ schedule i, (after factory start schedule).cell.isInitialized = false →
    (after factory start schedule).cell.inFlight = 0 →
    ((∃ more, (after factory start (schedule ++ [.poll i])).history =
        (after factory start schedule).history ++
          .began i ((after factory start schedule).cell.runs + 1) :: more) ↔
      (after factory start schedule).waiting.head? = some i ∨
        (after factory start schedule).waiting = [] ∧
          (after factory start schedule).stage i = some .fresh)
  /-- Every run that was begun has failed, was abandoned, is in flight or has made the value, the
  last two for one run at most, and runs are numbered in their order. -/
  runs_counted : ∀ schedule, (after factory start schedule).begins =
    (after factory start schedule).failures + (after factory start schedule).abandonments +
      ((after factory start schedule).cell.inFlight + (after factory start schedule).successes)
  one_more : ∀ schedule, (after factory start schedule).cell.inFlight +
    (after factory start schedule).successes ≤ 1
  initialized_iff : ∀ schedule, (after factory start schedule).cell.isInitialized = true ↔
    (after factory start schedule).successes = 1
  runs_numbered : ∀ schedule, (after factory start schedule).history.filterMap
    AwaitedEvent.begun? = List.range' 1 (after factory start schedule).begins

/-- An awaited singleton is constructed by one task at a time and at most once in the end, whatever
its factory does, and however many tasks ask for it, are given turns and are dropped. -/
theorem constructs_one_at_a_time (factory : AwaitedFactory σ α) (start : σ) :
    ConstructsOneAtATime factory start := by
  have hc : ∀ schedule, (after factory start schedule).Consistent :=
    fun schedule => consistent_after factory start schedule
  constructor
  case one_in_flight =>
    intro schedule
    have hsingle := (hc schedule).balanced.single
    omega
  case one_success =>
    intro schedule
    have hsingle := (hc schedule).balanced.single
    omega
  case no_begin_after_success => exact fun schedule => (hc schedule).ordered
  case one_instance => exact fun schedule => (hc schedule).sharing.shared
  case made_by_run => exact fun schedule => (hc schedule).sharing.made
  case found_when_published =>
    intro schedule i x hp hstage
    rw [after_concat, step, pollEvents_of_published (hc schedule).seated hstage hp]
    exact List.mem_append_right _ List.mem_cons_self
  case stays_published => exact fun schedule more x hp => published_after_append schedule more hp
  case error_by_own_run => exact fun schedule i e he => got_of_telling (hc schedule).telling he
  case empty_after_loss =>
    intro schedule a new hnew e he hloss
    obtain ⟨shown, hshown, hempty⟩ := empty_of_step factory (hc schedule) a
    rw [after_concat] at hnew ⊢
    have hsame : new = shown := List.append_cancel_left (hnew.symm.trans hshown)
    obtain ⟨hp, hidle⟩ := hempty (List.any_eq_true.mpr ⟨e, hsame ▸ he, hloss⟩)
    exact ⟨by rw [AwaitedCell.isInitialized, hp]; rfl, hidle⟩
  case begins_anew =>
    intro schedule i hempty hidle
    have hp : (after factory start schedule).cell.published = none := by
      simpa [AwaitedCell.isInitialized] using hempty
    rw [after_concat, begins_iff (hc schedule), isNext_iff (hc schedule) hp hidle]
  case runs_counted =>
    intro schedule
    have hended := (hc schedule).balanced.ended
    omega
  case one_more =>
    intro schedule
    have hsingle := (hc schedule).balanced.single
    omega
  case initialized_iff =>
    intro schedule
    rw [(hc schedule).balanced.made, AwaitedCell.isInitialized]
    cases (after factory start schedule).cell.published <;> simp
  case runs_numbered =>
    intro schedule
    have hnumbers := (hc schedule).balanced.numbers
    have hlength := List.length_filterMap_eq_countP (f := AwaitedEvent.begun?)
      (l := (after factory start schedule).history)
    rw [hnumbers, List.length_range'] at hlength
    rw [hnumbers, hlength]
    rfl

-- task 0 is dropped while it drives a run, task 1 takes over and fails, and task 2 makes the value
example :
    (after (fun n => (⟨1, some (if n = 1 then .error .cancelled else .ok n)⟩, n + 1)) 0
      ([.call, .call, .call] ++ [0, 1, 2].map .poll ++ [.drop 0] ++ [1, 1, 2, 2].map .poll ++
        [.call, .poll 3])).history =
      [.began 0 1, .waited 1, .waited 2, .abandoned 0 1, .began 1 2, .ended 1 2 (.error .cancelled),
        .got 1 (.error .cancelled), .began 2 3, .ended 2 3 (.ok 2), .got 2 (.ok ⟨3, 2⟩),
        .got 3 (.ok ⟨3, 2⟩)] := by
  decide

end Tasks

end PlatformLink.Singleton
