import PlatformLink.Singleton.Awaited

/-!
# The permit of an awaited singleton

The permit to run the factory and the line of those who wait for it belong together (`Seated`): the
holder of the permit waits for its turn or drives a run, and whoever else waits stands in line once.
Where they do, a turn of a task and its drop are told by equations, one for each thing that can
happen. A turn in which a run begins is the begin of the run (`started`) and then its first turn.
-/

namespace PlatformLink.Singleton

/-- How a run ends that is given its turn, unless it suspends. -/
def AwaitedRun.endsNow? {α : Type} (r : AwaitedRun α) : Option (Outcome α) :=
  if r.suspensions = 0 then r.ending else none

namespace TaskStage

variable {α : Type}

def isDriving : TaskStage α → Bool
  | driving _ _ => true
  | _ => false

def isQueued : TaskStage α → Bool
  | queued => true
  | _ => false

/-- The number of the run that a task drives. -/
def run? : TaskStage α → Option Nat
  | driving number _ => some number
  | _ => none

end TaskStage

/-! ## The cell -/

namespace AwaitedCell

variable {σ α : Type} {c : AwaitedCell σ α} {i j : Nat} {t t' : TaskStage α}

@[simp] theorem setTask_published (c : AwaitedCell σ α) (i : Nat) (t : TaskStage α) :
    (c.setTask i t).published = c.published := rfl

@[simp] theorem setTask_permit (c : AwaitedCell σ α) (i : Nat) (t : TaskStage α) :
    (c.setTask i t).permit = c.permit := rfl

@[simp] theorem setTask_line (c : AwaitedCell σ α) (i : Nat) (t : TaskStage α) :
    (c.setTask i t).line = c.line := rfl

@[simp] theorem setTask_runs (c : AwaitedCell σ α) (i : Nat) (t : TaskStage α) :
    (c.setTask i t).runs = c.runs := rfl

@[simp] theorem setTask_setTask (c : AwaitedCell σ α) (i : Nat) (t t' : TaskStage α) :
    (c.setTask i t).setTask i t' = c.setTask i t' := by
  simp [setTask]

theorem setTask_tasks_self (h : c.tasks[i]? = some t) : (c.setTask i t').tasks[i]? = some t' := by
  obtain ⟨hlt, -⟩ := List.getElem?_eq_some_iff.mp h
  simp [setTask, hlt]

theorem setTask_tasks_of_ne (h : j ≠ i) : (c.setTask i t).tasks[j]? = c.tasks[j]? := by
  simp [setTask, List.getElem?_set_ne h.symm]

/-- How many runs are in flight. -/
def inFlight (c : AwaitedCell σ α) : Nat :=
  c.tasks.countP TaskStage.isDriving

theorem inFlight_setTask (h : c.tasks[i]? = some t) :
    (c.setTask i t').inFlight + t.isDriving.toNat = c.inFlight + t'.isDriving.toNat := by
  obtain ⟨hlt, rfl⟩ := List.getElem?_eq_some_iff.mp h
  have hset : (c.setTask i t').inFlight =
      (c.inFlight - if c.tasks[i].isDriving then 1 else 0) + if t'.isDriving then 1 else 0 :=
    List.countP_set hlt
  have hcount : c.tasks[i].isDriving = true → 0 < c.inFlight := fun hd =>
    List.countP_pos_iff.mpr ⟨_, List.getElem_mem hlt, hd⟩
  rw [hset]
  cases hd : c.tasks[i].isDriving <;> cases t'.isDriving <;> simp_all <;> omega

@[simp] theorem release_permit (c : AwaitedCell σ α) : c.release.permit = c.line.head? := by
  cases h : c.line <;> simp [release, h]

@[simp] theorem release_line (c : AwaitedCell σ α) : c.release.line = c.line.tail := by
  cases h : c.line <;> simp [release, h]

@[simp] theorem release_tasks (c : AwaitedCell σ α) : c.release.tasks = c.tasks := by
  cases h : c.line <;> simp [release, h]

@[simp] theorem release_published (c : AwaitedCell σ α) : c.release.published = c.published := by
  cases h : c.line <;> simp [release, h]

@[simp] theorem release_runs (c : AwaitedCell σ α) : c.release.runs = c.runs := by
  cases h : c.line <;> simp [release, h]

/-- Whether a task waits for its turn. -/
def waits (c : AwaitedCell σ α) (i : Nat) : Bool :=
  c.tasks[i]?.any TaskStage.isQueued

theorem waits_iff (c : AwaitedCell σ α) (i : Nat) :
    c.waits i = true ↔ c.tasks[i]? = some .queued := by
  rw [waits]
  cases c.tasks[i]? with
  | none => simp
  | some t => cases t <;> simp [TaskStage.isQueued]

theorem waits_setTask (h : c.tasks[i]? = some t) (j : Nat) :
    (c.setTask i t').waits j = if j = i then t'.isQueued else c.waits j := by
  rw [waits, waits]
  split
  · next hji =>
    rw [hji, setTask_tasks_self h]
    rfl
  · next hji => rw [setTask_tasks_of_ne hji]

@[simp] theorem waits_spawn (c : AwaitedCell σ α) : c.spawn.2.waits = c.waits := by
  funext i
  rw [waits, waits]
  by_cases hlt : i < c.tasks.length
  · rw [spawn, List.getElem?_append_left hlt]
  · rw [spawn, List.getElem?_append_right (Nat.le_of_not_lt hlt),
      List.getElem?_eq_none (Nat.le_of_not_lt hlt), List.getElem?_singleton]
    split <;> rfl

/-- A task gives up the permit or its place in line. -/
def leave (c : AwaitedCell σ α) (i : Nat) : AwaitedCell σ α :=
  if c.permit = some i then c.release else { c with line := c.line.filter (· ≠ i) }

/-- A task is over: it stands at `t`, and `p` is published. -/
def concluded (c : AwaitedCell σ α) (i : Nat) (t : TaskStage α) (p : Option (AwaitedInstance α)) :
    AwaitedCell σ α :=
  ({ c with published := p }.setTask i t).leave i

variable {p : Option (AwaitedInstance α)}

theorem concluded_of_permit (h : c.permit = some i) :
    c.concluded i t p = ({ c with published := p }.setTask i t).release :=
  if_pos h

theorem concluded_of_not_permit (h : c.permit ≠ some i) :
    c.concluded i t p = { c with published := p, line := c.line.filter (· ≠ i) }.setTask i t :=
  if_neg h

@[simp] theorem concluded_tasks (c : AwaitedCell σ α) (i : Nat) (t : TaskStage α)
    (p : Option (AwaitedInstance α)) : (c.concluded i t p).tasks = (c.setTask i t).tasks := by
  by_cases h : c.permit = some i
  · rw [concluded_of_permit h, release_tasks]
    rfl
  · rw [concluded_of_not_permit h]
    rfl

@[simp] theorem concluded_published (c : AwaitedCell σ α) (i : Nat) (t : TaskStage α)
    (p : Option (AwaitedInstance α)) : (c.concluded i t p).published = p := by
  by_cases h : c.permit = some i
  · rw [concluded_of_permit h, release_published]
    rfl
  · rw [concluded_of_not_permit h]
    rfl

@[simp] theorem concluded_runs (c : AwaitedCell σ α) (i : Nat) (t : TaskStage α)
    (p : Option (AwaitedInstance α)) : (c.concluded i t p).runs = c.runs := by
  by_cases h : c.permit = some i
  · rw [concluded_of_permit h, release_runs]
    rfl
  · rw [concluded_of_not_permit h]
    rfl

@[simp] theorem inFlight_concluded (c : AwaitedCell σ α) (i : Nat) (t : TaskStage α)
    (p : Option (AwaitedInstance α)) : (c.concluded i t p).inFlight = (c.setTask i t).inFlight := by
  rw [inFlight, concluded_tasks]
  rfl

theorem concluded_permit_of_permit (h : c.permit = some i) :
    (c.concluded i t p).permit = c.line.head? := by
  rw [concluded_of_permit h, release_permit]
  rfl

theorem concluded_line_of_permit (h : c.permit = some i) :
    (c.concluded i t p).line = c.line.tail := by
  rw [concluded_of_permit h, release_line]
  rfl

theorem concluded_permit_of_not_permit (h : c.permit ≠ some i) :
    (c.concluded i t p).permit = c.permit := by
  rw [concluded_of_not_permit h]
  rfl

theorem concluded_line_of_not_permit (h : c.permit ≠ some i) :
    (c.concluded i t p).line = c.line.filter (· ≠ i) := by
  rw [concluded_of_not_permit h]
  rfl

theorem length_line_concluded (c : AwaitedCell σ α) (i : Nat) (t : TaskStage α)
    (p : Option (AwaitedInstance α)) : (c.concluded i t p).line.length ≤ c.line.length := by
  by_cases h : c.permit = some i
  · rw [concluded_line_of_permit h, List.length_tail]
    exact Nat.sub_le _ _
  · rw [concluded_line_of_not_permit h]
    exact List.length_filter_le _ _

/-- A task has the permit and begins a run, which has not had its first turn. -/
def started (factory : AwaitedFactory σ α) (c : AwaitedCell σ α) (i : Nat) : AwaitedCell σ α :=
  { c with
    factoryState := (factory c.factoryState).2
    permit := some i
    runs := c.runs + 1 }.setTask i (.driving (c.runs + 1) (factory c.factoryState).1)

/-- Whether a task that is given a turn begins a run. -/
structure IsNext (c : AwaitedCell σ α) (i : Nat) : Prop where
  empty : c.published = none
  turn : c.tasks[i]? = some .fresh ∧ c.permit = none ∨
    c.tasks[i]? = some .queued ∧ c.permit = some i

theorem IsNext.fresh_or_queued (h : c.IsNext i) :
    c.tasks[i]? = some .fresh ∨ c.tasks[i]? = some .queued :=
  h.turn.imp And.left And.left

/-- A task that comes or waits drives no run and has no result. -/
theorem exists_idle (h : c.tasks[i]? = some .fresh ∨ c.tasks[i]? = some .queued) :
    ∃ t, c.tasks[i]? = some t ∧ t.isDriving = false ∧ t.result? = none := by
  rcases h with h | h <;> exact ⟨_, h, rfl, rfl⟩

theorem drive_setTask (c : AwaitedCell σ α) (i number : Nat) (t : TaskStage α) (r : AwaitedRun α) :
    (c.setTask i t).drive i number r = c.drive i number r := by
  obtain ⟨suspensions, ending⟩ := r
  cases suspensions with
  | succ n => simp [drive]
  | zero =>
    rcases ending with _ | (e | x)
    · simp [drive]
    · simp [drive]
    · simp [drive, setTask]

theorem drive_of_suspends (c : AwaitedCell σ α) (i number : Nat) {r : AwaitedRun α}
    (h : r.endsNow? = none) : ∃ r', c.drive i number r = c.setTask i (.driving number r') := by
  obtain ⟨suspensions, ending⟩ := r
  cases suspensions with
  | succ n => exact ⟨_, rfl⟩
  | zero =>
    rcases ending with _ | (e | x)
    · exact ⟨_, rfl⟩
    · cases h
    · cases h

theorem drive_of_made (number : Nat) {r : AwaitedRun α} {x : α} (h : r.endsNow? = some (.ok x))
    (hpermit : c.permit = some i) :
    c.drive i number r = c.concluded i (.finished (.ok ⟨number, x⟩)) (some ⟨number, x⟩) := by
  obtain ⟨suspensions, ending⟩ := r
  cases suspensions with
  | succ n => cases h
  | zero =>
    cases h
    exact (if_pos hpermit).symm

theorem drive_of_failed (number : Nat) {r : AwaitedRun α} {e : LinkError}
    (h : r.endsNow? = some (.error e)) (hpermit : c.permit = some i) :
    c.drive i number r = c.concluded i (.finished (.error e)) c.published := by
  obtain ⟨suspensions, ending⟩ := r
  cases suspensions with
  | succ n => cases h
  | zero =>
    cases h
    exact (if_pos hpermit).symm

@[simp] theorem drive_runs (c : AwaitedCell σ α) (i number : Nat) (r : AwaitedRun α) :
    (c.drive i number r).runs = c.runs := by
  obtain ⟨suspensions, ending⟩ := r
  cases suspensions with
  | succ n => rfl
  | zero =>
    rcases ending with _ | (e | x)
    · rfl
    · exact release_runs _
    · exact release_runs _

theorem length_line_drive (c : AwaitedCell σ α) (i number : Nat) (r : AwaitedRun α) :
    (c.drive i number r).line.length ≤ c.line.length := by
  obtain ⟨suspensions, ending⟩ := r
  cases suspensions with
  | succ n => exact Nat.le_refl _
  | zero =>
    have hrelease : ∀ c : AwaitedCell σ α, c.release.line.length ≤ c.line.length := fun c => by
      rw [release_line, List.length_tail]
      exact Nat.sub_le _ _
    rcases ending with _ | (e | x)
    · exact Nat.le_refl _
    · exact hrelease (c.setTask i (.finished (.error e)))
    · exact hrelease ({ c with published := some ⟨number, x⟩ }.setTask i _)

/-! ## Permit and line -/

/-- What permit and line are to a task by where it stands: whoever waits stands in line or holds the
permit, whoever drives a run holds it, and nobody else has to do with them. -/
def SeatedAt (permit : Option Nat) (line : List Nat) (i : Nat) : Option (TaskStage α) → Prop
  | some .queued => permit = some i ∧ i ∉ line ∨ permit ≠ some i ∧ i ∈ line
  | some (.driving _ _) => permit = some i ∧ i ∉ line
  | _ => permit ≠ some i ∧ i ∉ line

/-- The permit and the line belong together. -/
structure Seated (c : AwaitedCell σ α) : Prop where
  places : ∀ i, SeatedAt c.permit c.line i c.tasks[i]?
  nodup : c.line.Nodup
  idle : c.permit = none → c.line = []

/-- To a task that neither gets nor gives anything up nothing changes. -/
theorem SeatedAt.congr {permit permit' : Option Nat} {line line' : List Nat}
    {st : Option (TaskStage α)} (h : SeatedAt permit line i st)
    (hpermit : permit' = some i ↔ permit = some i) (hline : i ∈ line' ↔ i ∈ line) :
    SeatedAt permit' line' i st := by
  rcases st with _ | (_ | _ | _ | _ | _) <;> simp_all [SeatedAt]

/-- The stages at which a task has to do with neither. -/
theorem seatedAt_of_outside {permit : Option Nat} {line : List Nat} {st : Option (TaskStage α)}
    (hd : st.any TaskStage.isDriving = false) (hq : st.any TaskStage.isQueued = false) :
    SeatedAt permit line i st ↔ permit ≠ some i ∧ i ∉ line := by
  rcases st with _ | (_ | _ | _ | _ | _) <;>
    simp_all [SeatedAt, TaskStage.isDriving, TaskStage.isQueued]

namespace Seated

theorem permit_of_driving (h : c.Seated) {n : Nat} {r : AwaitedRun α}
    (hi : c.tasks[i]? = some (.driving n r)) : c.permit = some i := by
  have hplace := h.places i
  rw [hi] at hplace
  exact hplace.1

theorem mem_line_of_queued (h : c.Seated) (hi : c.tasks[i]? = some .queued) :
    i ∈ c.line ↔ c.permit ≠ some i := by
  have hplace := h.places i
  rw [hi] at hplace
  rcases hplace with ⟨hp, hl⟩ | ⟨hp, hl⟩ <;> simp [hp, hl]

theorem queued_of_mem_line (h : c.Seated) (hi : i ∈ c.line) : c.tasks[i]? = some .queued := by
  have hplace := h.places i
  cases hst : c.tasks[i]? with
  | none => exact absurd hi (hst ▸ hplace).2
  | some st =>
    rw [hst] at hplace
    cases st with
    | queued => rfl
    | fresh | driving _ _ | finished _ | dropped => exact absurd hi hplace.2

theorem permit_ne_of_mem_line (h : c.Seated) (hi : i ∈ c.line) : c.permit ≠ some i :=
  (h.mem_line_of_queued (h.queued_of_mem_line hi)).mp hi

theorem outside_of_fresh (h : c.Seated) (hi : c.tasks[i]? = some .fresh) :
    c.permit ≠ some i ∧ i ∉ c.line := by
  have hplace := h.places i
  rwa [hi] at hplace

/-- Whoever holds the permit waits for a turn or drives a run. -/
theorem stage_of_permit (h : c.Seated) (hi : c.permit = some i) :
    c.tasks[i]? = some .queued ∨ ∃ n r, c.tasks[i]? = some (.driving n r) := by
  have hplace := h.places i
  cases hst : c.tasks[i]? with
  | none => exact absurd hi (hst ▸ hplace).1
  | some st =>
    rw [hst] at hplace
    cases st with
    | queued => exact .inl rfl
    | driving n r => exact .inr ⟨n, r, rfl⟩
    | fresh | finished _ | dropped => exact absurd hi hplace.1

theorem new (s : σ) : (AwaitedCell.new s : AwaitedCell σ α).Seated where
  places i := by simp [AwaitedCell.new, SeatedAt]
  nodup := List.nodup_nil
  idle _ := rfl

theorem spawn (h : c.Seated) : c.spawn.2.Seated where
  places i := by
    have hplace := h.places i
    by_cases hlt : i < c.tasks.length
    · simpa [AwaitedCell.spawn, List.getElem?_append_left hlt] using hplace
    · rw [List.getElem?_eq_none (Nat.le_of_not_lt hlt)] at hplace
      refine (seatedAt_of_outside ?_ ?_).mpr hplace <;>
        simp only [AwaitedCell.spawn, List.getElem?_append, hlt, if_false,
          List.getElem?_singleton] <;>
        split <;> rfl
  nodup := h.nodup
  idle := h.idle

/-- One task goes on to another stage, and the others keep what they have. -/
theorem of_setTask {c' : AwaitedCell σ α} (hi : c.tasks[i]? = some t)
    (htasks : c'.tasks = (c.setTask i t').tasks) (hself : SeatedAt c'.permit c'.line i (some t'))
    (hothers : ∀ j, j ≠ i → SeatedAt c'.permit c'.line j c.tasks[j]?)
    (hnodup : c'.line.Nodup) (hidle : c'.permit = none → c'.line = []) : c'.Seated where
  places j := by
    rw [htasks]
    by_cases hji : j = i
    · rw [hji, setTask_tasks_self hi]
      exact hself
    · rw [setTask_tasks_of_ne hji]
      exact hothers j hji
  nodup := hnodup
  idle := hidle

/-- A task gets in line behind the others. -/
theorem wait (h : c.Seated) (hi : c.tasks[i]? = some .fresh) (hpermit : c.permit ≠ none) :
    ({ c with line := c.line ++ [i] }.setTask i .queued).Seated := by
  obtain ⟨hfree, hline⟩ := h.outside_of_fresh hi
  refine of_setTask hi rfl (.inr ⟨hfree, by simp⟩) (fun j hji => ?_) ?_
    fun hnone => absurd hnone hpermit
  · exact (h.places j).congr Iff.rfl (by simp [hji])
  · exact List.nodup_append.mpr ⟨h.nodup, List.pairwise_singleton _ i, fun j hj k hk heq =>
      hline (List.mem_singleton.mp hk ▸ heq ▸ hj)⟩

/-- Whoever is next gets the permit. -/
theorem started (h : c.Seated) (factory : AwaitedFactory σ α) (hi : c.IsNext i) :
    (c.started factory i).Seated := by
  rcases hi.turn with ⟨hf, hnone⟩ | ⟨hq, hp⟩
  · have hempty := h.idle hnone
    refine of_setTask hf rfl ⟨rfl, (h.outside_of_fresh hf).2⟩ (fun j hji => ?_) h.nodup nofun
    have hplace := h.places j
    rw [hnone, hempty] at hplace
    have hne : some i ≠ some j := by simpa using Ne.symm hji
    have hline : j ∉ (c.started factory i).line := by
      simp [AwaitedCell.started, hempty]
    cases hst : c.tasks[j]? with
    | none => exact ⟨hne, hline⟩
    | some st =>
      rw [hst] at hplace
      cases st with
      | queued => simp [SeatedAt] at hplace
      | driving n r => simp [SeatedAt] at hplace
      | fresh | finished _ | dropped => exact ⟨hne, hline⟩
  · have hline : i ∉ c.line := fun hmem => h.permit_ne_of_mem_line hmem hp
    refine of_setTask hq rfl ⟨rfl, hline⟩ (fun j _ => ?_) h.nodup nofun
    exact (h.places j).congr (by rw [hp]; rfl) Iff.rfl

/-- A run that suspends leaves its task where it was. -/
theorem suspended (h : c.Seated) {n m : Nat} {r r' : AwaitedRun α}
    (hi : c.tasks[i]? = some (.driving n r)) : (c.setTask i (.driving m r')).Seated := by
  have hplace := h.places i
  rw [hi] at hplace
  exact of_setTask hi rfl hplace (fun j _ => h.places j) h.nodup h.idle

/-- A task that is over gives the permit to the next in line, or its place in line up. -/
theorem concluded (h : c.Seated) (hi : c.tasks[i]? = some t) (ht : t'.isOver = true)
    (p : Option (AwaitedInstance α)) : (c.concluded i t' p).Seated := by
  have houtside : ∀ permit line, SeatedAt permit line i (some t') ↔ permit ≠ some i ∧ i ∉ line :=
    fun _ _ => seatedAt_of_outside (by cases t' <;> trivial) (by cases t' <;> trivial)
  by_cases hp : c.permit = some i
  · have hline : i ∉ c.line := fun hmem => h.permit_ne_of_mem_line hmem hp
    refine of_setTask hi (c.concluded_tasks i t' p) ?_ (fun j hji => ?_) ?_ ?_ <;>
      simp only [concluded_permit_of_permit hp, concluded_line_of_permit hp]
    · exact (houtside _ _).mpr ⟨fun hhead => hline (List.mem_of_mem_head? hhead),
        fun hmem => hline (List.mem_of_mem_tail hmem)⟩
    · have hplace := h.places j
      cases hl : c.line with
      | nil =>
        rw [hl, hp] at hplace
        exact hplace.congr (by simp [Ne.symm hji]) Iff.rfl
      | cons k rest =>
        have hnodup := h.nodup
        rw [hl, List.nodup_cons] at hnodup
        by_cases hjk : j = k
        · -- the first in line gets the permit
          subst hjk
          rw [h.queued_of_mem_line (hl ▸ List.mem_cons_self)]
          exact .inl ⟨rfl, hnodup.1⟩
        · rw [hl, hp] at hplace
          exact hplace.congr (by simp [Ne.symm hji, Ne.symm hjk]) (by simp [hjk])
    · exact h.nodup.tail
    · intro hnone
      rw [List.head?_eq_none_iff.mp hnone, List.tail_nil]
  · refine of_setTask hi (c.concluded_tasks i t' p) ?_ (fun j hji => ?_) ?_ ?_ <;>
      simp only [concluded_permit_of_not_permit hp, concluded_line_of_not_permit hp]
    · exact (houtside _ _).mpr ⟨hp, by simp⟩
    · exact (h.places j).congr Iff.rfl (by simp [hji])
    · exact h.nodup.filter _
    · intro hnone
      rw [h.idle hnone, List.filter_nil]

end Seated

/-! ## What a turn does -/

variable {factory : AwaitedFactory σ α} {n : Nat} {r : AwaitedRun α} {x : AwaitedInstance α}

theorem poll_of_published (h : c.Seated)
    (ht : c.tasks[i]? = some .fresh ∨ c.tasks[i]? = some .queued) (hp : c.published = some x) :
    c.poll factory i = c.concluded i (.finished (.ok x)) c.published := by
  rcases ht with hf | hq
  · obtain ⟨hpermit, hline⟩ := h.outside_of_fresh hf
    have hfilter : c.line.filter (· ≠ i) = c.line :=
      List.filter_eq_self.mpr fun j hj => by simpa using ne_of_mem_of_not_mem hj hline
    rw [concluded_of_not_permit hpermit, hfilter, poll, hf, hp]
    simp [setTask, hp]
  · by_cases hpermit : c.permit = some i
    · rw [concluded_of_permit hpermit, poll, hq, hp]
      simp [setTask, hp, hpermit]
    · rw [concluded_of_not_permit hpermit, poll, hq, hp]
      simp [setTask, hp, hpermit]

theorem poll_of_wait (hi : c.tasks[i]? = some .fresh) (hp : c.published = none)
    (hpermit : c.permit ≠ none) :
    c.poll factory i = { c with line := c.line ++ [i] }.setTask i .queued := by
  obtain ⟨j, hj⟩ := Option.ne_none_iff_exists'.mp hpermit
  rw [poll, hi, hp, hj]

theorem poll_of_next (hi : c.IsNext i) :
    c.poll factory i =
      (c.started factory i).drive i (c.runs + 1) (factory c.factoryState).1 := by
  rw [started, drive_setTask]
  rcases hi.turn with ⟨hf, hnone⟩ | ⟨hq, hpermit⟩
  · rw [poll, hf, hi.empty, hnone]
    rfl
  · have hpoll : c.poll factory i = c.beginRun factory i := by
      rw [poll, hq, hi.empty]
      exact if_pos hpermit
    rw [hpoll, beginRun, hpermit]

theorem poll_of_driving (hi : c.tasks[i]? = some (.driving n r)) :
    c.poll factory i = c.drive i n r := by
  rw [poll, hi]

theorem poll_of_behind (hi : c.tasks[i]? = some .queued) (hp : c.published = none)
    (hpermit : c.permit ≠ some i) : c.poll factory i = c := by
  rw [poll, hi, hp]
  exact if_neg hpermit

/-- A task that is over, or never came, has no turn. -/
theorem poll_of_over (hi : c.tasks[i]?.all TaskStage.isOver = true) : c.poll factory i = c := by
  cases hst : c.tasks[i]? with
  | none => rw [poll, hst]
  | some st =>
    rw [hst] at hi
    cases st with
    | finished _ | dropped => rw [poll, hst]
    | fresh | queued | driving _ _ => cases hi

theorem drop_of_unfinished (hi : c.tasks[i]? = some t) (ht : t.isOver = false) :
    c.drop i = c.concluded i .dropped c.published := by
  have hdrop : c.drop i = (c.setTask i .dropped).leave i := by
    rw [drop, hi]
    cases t with
    | fresh | queued | driving _ _ => rfl
    | finished _ | dropped => cases ht
  rw [hdrop]
  rfl

theorem drop_of_over (hi : c.tasks[i]?.all TaskStage.isOver = true) : c.drop i = c := by
  cases hst : c.tasks[i]? with
  | none => rw [drop, hst]
  | some st =>
    rw [hst] at hi
    cases st with
    | finished _ | dropped => rw [drop, hst]
    | fresh | queued | driving _ _ => cases hi

end AwaitedCell

end PlatformLink.Singleton
