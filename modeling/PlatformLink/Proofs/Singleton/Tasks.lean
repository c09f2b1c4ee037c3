import Mathlib.Data.List.Induction
import PlatformLink.Proofs.Singleton.Permit

/-!
# Tasks over an awaited singleton

Any number of tasks ask one cell for its value, and a task may be dropped wherever it stands. A
schedule says who comes next, who is given a turn and who is dropped, so that the runs of all
schedules are all orders of these steps; who asks twice is two tasks. How a run goes is decided when
it begins, by a factory with any state of its own, so that any sequence of runs is that of some
factory. The history records what tasks show: who began to wait, the begin of each run of the
factory, how it ended or that it was abandoned, and what each task got.

`TaskMove` says what can happen where permit and line belong together. A turn in which a run begins
is two moves, the begin of the run and its first turn.
-/

namespace PlatformLink.Singleton

inductive AwaitedEvent (α : Type) where
  | waited (task : Nat)
  | began (task run : Nat)
  | ended (task run : Nat) (r : Outcome α)
  | abandoned (task run : Nat)
  | got (task : Nat) (r : Outcome (AwaitedInstance α))
  deriving Repr, DecidableEq

def AwaitedEvent.task {α : Type} : AwaitedEvent α → Nat
  | waited t | began t _ | ended t _ _ | abandoned t _ | got t _ => t

/-- What is scheduled next: a task comes and asks for the value, is given a turn, or is dropped. -/
inductive TaskAction where
  | call
  | poll (task : Nat)
  | drop (task : Nat)
  deriving Repr, DecidableEq

/-! ## The tasks and what they show -/

/-- The tasks over one cell, and what they have shown. -/
structure Tasks (σ α : Type) where
  cell : AwaitedCell σ α
  history : List (AwaitedEvent α)

namespace Tasks

variable {σ α : Type}

def new (start : σ) : Tasks σ α :=
  ⟨.new start, []⟩

def stage (s : Tasks σ α) (i : Nat) : Option (TaskStage α) :=
  s.cell.tasks[i]?

/-- The events of one task. -/
def own (s : Tasks σ α) (i : Nat) : List (AwaitedEvent α) :=
  s.history.filter fun e => e.task == i

/-- What a task got, if it has a result. -/
def result? (c : AwaitedCell σ α) (i : Nat) : Option (Outcome (AwaitedInstance α)) :=
  c.tasks[i]?.bind TaskStage.result?

theorem result?_of_stage {c : AwaitedCell σ α} {i : Nat} {t : TaskStage α}
    (h : c.tasks[i]? = some t) : result? c i = t.result? := by
  rw [result?, h]
  rfl

/-- The run that a task drives in a turn: the one that it was driving, or the one that it begins. -/
def turn? (factory : AwaitedFactory σ α) (c : AwaitedCell σ α) (i : Nat) :
    Option (Nat × AwaitedRun α) :=
  match c.tasks[i]? with
  | some (.driving number r) => some (number, r)
  | _ =>
    if c.runs < (c.poll factory i).runs then
      some ((c.poll factory i).runs, (factory c.factoryState).1)
    else none

/-- What a turn of a task shows: the task gets in line, a run begins, the run that it drives ends,
and the task has a result. -/
def pollEvents (factory : AwaitedFactory σ α) (c : AwaitedCell σ α) (i : Nat) :
    List (AwaitedEvent α) :=
  (if c.line.length < (c.poll factory i).line.length then [.waited i] else []) ++
    (if c.runs < (c.poll factory i).runs then [.began i (c.poll factory i).runs] else []) ++
    ((turn? factory c i).bind fun d => d.2.endsNow?.map (.ended i d.1)).toList ++
    (if (result? c i).isSome then [] else ((result? (c.poll factory i) i).map (.got i)).toList)

/-- A task that is dropped abandons the run that it drives. -/
def dropEvents (c : AwaitedCell σ α) (i : Nat) : List (AwaitedEvent α) :=
  ((c.tasks[i]?.bind TaskStage.run?).map (.abandoned i)).toList

def step (factory : AwaitedFactory σ α) (s : Tasks σ α) : TaskAction → Tasks σ α
  | .call => ⟨s.cell.spawn.2, s.history⟩
  | .poll i => ⟨s.cell.poll factory i, s.history ++ pollEvents factory s.cell i⟩
  | .drop i => ⟨s.cell.drop i, s.history ++ dropEvents s.cell i⟩

/-- The tasks over a new cell after a schedule. -/
def after (factory : AwaitedFactory σ α) (start : σ) (schedule : List TaskAction) : Tasks σ α :=
  schedule.foldl (step factory) (new start)

theorem after_concat (factory : AwaitedFactory σ α) (start : σ) (schedule : List TaskAction)
    (a : TaskAction) :
    after factory start (schedule ++ [a]) = (after factory start schedule).step factory a := by
  simp [after]

end Tasks

/-! ## Moves -/

/-- How a task comes to be over: where it stood and stands, what is published then, and what that
shows. -/
inductive TaskEnd {α : Type} (i : Nat) (published : Option (AwaitedInstance α)) :
    TaskStage α → TaskStage α → Option (AwaitedInstance α) → List (AwaitedEvent α) → Prop where
  | found (t : TaskStage α) (x : AwaitedInstance α) (ht : t = .fresh ∨ t = .queued)
      (hp : published = some x) :
      TaskEnd i published t (.finished (.ok x)) published [.got i (.ok x)]
  | made (number : Nat) (r : AwaitedRun α) (x : α) (hr : r.endsNow? = some (.ok x)) :
      TaskEnd i published (.driving number r) (.finished (.ok ⟨number, x⟩)) (some ⟨number, x⟩)
        [.ended i number (.ok x), .got i (.ok ⟨number, x⟩)]
  | failed (number : Nat) (r : AwaitedRun α) (e : LinkError) (hr : r.endsNow? = some (.error e)) :
      TaskEnd i published (.driving number r) (.finished (.error e)) published
        [.ended i number (.error e), .got i (.error e)]
  | dropped (t : TaskStage α) (ht : t.isOver = false) :
      TaskEnd i published t .dropped published (t.run?.map (.abandoned i)).toList

theorem TaskEnd.isOver {α : Type} {i : Nat} {published p : Option (AwaitedInstance α)}
    {t t' : TaskStage α} {events : List (AwaitedEvent α)} (h : TaskEnd i published t t' p events) :
    t'.isOver = true := by
  cases h <;> rfl

/-- What can happen to tasks, one of them at a time. -/
inductive TaskMove {σ α : Type} (factory : AwaitedFactory σ α) (s : Tasks σ α) :
    Tasks σ α → Prop where
  | enter : TaskMove factory s ⟨s.cell.spawn.2, s.history⟩
  | wait (i : Nat) (h : s.cell.tasks[i]? = some .fresh) (hp : s.cell.published = none)
      (hpermit : s.cell.permit ≠ none) :
      TaskMove factory s
        ⟨{ s.cell with line := s.cell.line ++ [i] }.setTask i .queued, s.history ++ [.waited i]⟩
  | start (i : Nat) (h : s.cell.IsNext i) :
      TaskMove factory s
        ⟨s.cell.started factory i, s.history ++ [.began i (s.cell.runs + 1)]⟩
  | suspend (i number : Nat) (r r' : AwaitedRun α)
      (h : s.cell.tasks[i]? = some (.driving number r)) :
      TaskMove factory s ⟨s.cell.setTask i (.driving number r'), s.history⟩
  | finish (i : Nat) (t t' : TaskStage α) (p : Option (AwaitedInstance α))
      (events : List (AwaitedEvent α)) (h : s.cell.tasks[i]? = some t)
      (hend : TaskEnd i s.cell.published t t' p events) :
      TaskMove factory s ⟨s.cell.concluded i t' p, s.history ++ events⟩

namespace Tasks

variable {σ α : Type} {factory : AwaitedFactory σ α} {s s' : Tasks σ α}

theorem seated_of_move (h : s.cell.Seated) (hm : TaskMove factory s s') : s'.cell.Seated := by
  cases hm with
  | enter => exact h.spawn
  | wait i hi hp hpermit => exact h.wait hi hpermit
  | start i hi => exact h.started factory hi
  | suspend i number r r' hi => exact h.suspended hi
  | finish i t t' p events hi hend => exact h.concluded hi hend.isOver p

/-- What a turn shows of a run: its end, and the result of the task that drives it. -/
def runEvents (i number : Nat) (r : AwaitedRun α) (c : AwaitedCell σ α) : List (AwaitedEvent α) :=
  (r.endsNow?.map (.ended i number)).toList ++ ((result? c i).map (.got i)).toList

/-- The turn of a task that drives a run. -/
theorem move_drive {i number : Nat} {r : AwaitedRun α} (h : s.cell.Seated)
    (hi : s.cell.tasks[i]? = some (.driving number r)) :
    TaskMove factory s ⟨s.cell.drive i number r,
      s.history ++ runEvents i number r (s.cell.drive i number r)⟩ := by
  have hpermit := h.permit_of_driving hi
  cases hr : r.endsNow? with
  | none =>
    obtain ⟨r', hdrive⟩ := s.cell.drive_of_suspends i number hr
    rw [runEvents, hr, hdrive, result?_of_stage (AwaitedCell.setTask_tasks_self hi)]
    simpa [TaskStage.result?] using TaskMove.suspend i number r r' hi
  | some o =>
    cases o with
    | ok x =>
      rw [runEvents, hr, AwaitedCell.drive_of_made number hr hpermit, result?,
        AwaitedCell.concluded_tasks, AwaitedCell.setTask_tasks_self hi]
      exact TaskMove.finish i _ _ _ _ hi (.made number r x hr)
    | error e =>
      rw [runEvents, hr, AwaitedCell.drive_of_failed number hr hpermit, result?,
        AwaitedCell.concluded_tasks, AwaitedCell.setTask_tasks_self hi]
      exact TaskMove.finish i _ _ _ _ hi (.failed number r e hr)

variable {c : AwaitedCell σ α} {i : Nat}

theorem pollEvents_of_driving {number : Nat} {r : AwaitedRun α}
    (hi : c.tasks[i]? = some (.driving number r)) :
    pollEvents factory c i = runEvents i number r (c.drive i number r) := by
  have hline := Nat.not_lt.mpr (c.length_line_drive i number r)
  have hresult : result? c i = none := result?_of_stage hi
  have hturn : turn? factory c i = some (number, r) := by rw [turn?, hi]
  rw [pollEvents, hturn, hresult, AwaitedCell.poll_of_driving hi, if_neg hline, runEvents]
  simp

/-- The turn of a task that begins a run shows its begin, and what the first turn of the run
shows. -/
theorem pollEvents_of_next (hi : c.IsNext i) :
    pollEvents factory c i = .began i (c.runs + 1) ::
      runEvents i (c.runs + 1) (factory c.factoryState).1
        ((c.started factory i).drive i (c.runs + 1) (factory c.factoryState).1) := by
  have hruns : (c.started factory i).runs = c.runs + 1 := rfl
  have hline : ¬c.line.length < ((c.started factory i).drive i (c.runs + 1)
      (factory c.factoryState).1).line.length :=
    Nat.not_lt.mpr ((c.started factory i).length_line_drive i _ _)
  obtain ⟨t, ht, -, hnone⟩ := AwaitedCell.exists_idle hi.fresh_or_queued
  have hresult : result? c i = none := (result?_of_stage ht).trans hnone
  have hturn : turn? factory c i = some (c.runs + 1, (factory c.factoryState).1) := by
    rcases hi.fresh_or_queued with hst | hst <;>
    · rw [turn?, hst, AwaitedCell.poll_of_next hi, AwaitedCell.drive_runs, hruns]
      exact if_pos (Nat.lt_succ_self _)
  rw [pollEvents, hturn, hresult, AwaitedCell.poll_of_next hi, AwaitedCell.drive_runs, hruns,
    if_neg hline, if_pos (Nat.lt_succ_self _), runEvents]
  simp

theorem turn?_of_runs_eq (hd : ∀ n r, c.tasks[i]? ≠ some (.driving n r))
    (hruns : (c.poll factory i).runs = c.runs) : turn? factory c i = none := by
  unfold turn?
  split
  · next n r hi => exact absurd hi (hd n r)
  · rw [hruns]
    exact if_neg (Nat.lt_irrefl _)

theorem pollEvents_of_published {x : AwaitedInstance α} (h : c.Seated)
    (ht : c.tasks[i]? = some .fresh ∨ c.tasks[i]? = some .queued) (hp : c.published = some x) :
    pollEvents factory c i = [.got i (.ok x)] := by
  have hpoll : c.poll factory i = c.concluded i (.finished (.ok x)) c.published :=
    AwaitedCell.poll_of_published h ht hp
  obtain ⟨t, hi, hidle, hnone⟩ := AwaitedCell.exists_idle ht
  have hself : (c.concluded i (.finished (.ok x)) c.published).tasks[i]? =
      some (.finished (.ok x)) := by
    rw [AwaitedCell.concluded_tasks]
    exact AwaitedCell.setTask_tasks_self hi
  have hturn : turn? factory c i = none := by
    refine turn?_of_runs_eq (fun n r hd => ?_) (by rw [hpoll, AwaitedCell.concluded_runs])
    rw [hi] at hd
    cases hd
    cases hidle
  rw [pollEvents, hturn, hpoll, AwaitedCell.concluded_runs,
    if_neg (Nat.not_lt.mpr (c.length_line_concluded i _ _)), if_neg (Nat.lt_irrefl _),
    result?_of_stage hi, hnone, result?_of_stage hself]
  rfl

theorem pollEvents_of_wait (hi : c.tasks[i]? = some .fresh) (hp : c.published = none)
    (hpermit : c.permit ≠ none) : pollEvents factory c i = [.waited i] := by
  have hpoll : c.poll factory i = { c with line := c.line ++ [i] }.setTask i .queued :=
    AwaitedCell.poll_of_wait hi hp hpermit
  have hturn : turn? factory c i = none := by
    refine turn?_of_runs_eq (fun n r hd => ?_) (by rw [hpoll]; rfl)
    rw [hi] at hd
    cases hd
  have hself : ({ c with line := c.line ++ [i] }.setTask i .queued).tasks[i]? = some .queued :=
    AwaitedCell.setTask_tasks_self hi
  rw [pollEvents, hturn, hpoll, result?_of_stage hi, result?_of_stage hself]
  simp [TaskStage.result?]

/-- A turn in which nothing changes shows nothing. -/
theorem pollEvents_of_poll_eq (hd : ∀ n r, c.tasks[i]? ≠ some (.driving n r))
    (hpoll : c.poll factory i = c) : pollEvents factory c i = [] := by
  rw [pollEvents, turn?_of_runs_eq hd (congrArg AwaitedCell.runs hpoll), hpoll]
  cases result? c i <;> simp

theorem dropEvents_of_stage {t : TaskStage α} (hi : c.tasks[i]? = some t) :
    dropEvents c i = (t.run?.map (.abandoned i)).toList := by
  rw [dropEvents, hi]
  rfl

theorem dropEvents_of_over (hi : c.tasks[i]?.all TaskStage.isOver = true) :
    dropEvents c i = [] := by
  cases hst : c.tasks[i]? with
  | none =>
    rw [dropEvents, hst]
    rfl
  | some st =>
    rw [hst] at hi
    rw [dropEvents_of_stage hst]
    cases st with
    | finished _ | dropped => rfl
    | fresh | queued | driving _ _ => cases hi

/-- Where a value is published, a task that comes for it or waits finds it in its turn. -/
theorem move_found (h : s.cell.Seated)
    (ht : s.cell.tasks[i]? = some .fresh ∨ s.cell.tasks[i]? = some .queued) {x : AwaitedInstance α}
    (hp : s.cell.published = some x) : TaskMove factory s (s.step factory (.poll i)) := by
  rw [step, AwaitedCell.poll_of_published h ht hp, pollEvents_of_published h ht hp]
  rcases ht with hi | hi
  · exact TaskMove.finish i _ _ _ _ hi (.found _ x (.inl rfl) hp)
  · exact TaskMove.finish i _ _ _ _ hi (.found _ x (.inr rfl) hp)

/-- The first turn of a run that its task has just begun. -/
theorem move_begun (h : s.cell.Seated) (hi : s.cell.IsNext i) :
    TaskMove factory ⟨s.cell.started factory i, s.history ++ [.began i (s.cell.runs + 1)]⟩
      (s.step factory (.poll i)) := by
  obtain ⟨t, ht, -⟩ := AwaitedCell.exists_idle hi.fresh_or_queued
  have hstage : (s.cell.started factory i).tasks[i]? =
      some (.driving (s.cell.runs + 1) (factory s.cell.factoryState).1) :=
    AwaitedCell.setTask_tasks_self ht
  rw [step, AwaitedCell.poll_of_next hi, pollEvents_of_next hi,
    List.append_cons _ _ (runEvents _ _ _ _)]
  exact move_drive (s := ⟨s.cell.started factory i, s.history ++ [.began i (s.cell.runs + 1)]⟩)
    (h.started factory hi) hstage

theorem step_poll_of_poll_eq (hd : ∀ n r, s.cell.tasks[i]? ≠ some (.driving n r))
    (hpoll : s.cell.poll factory i = s.cell) : s.step factory (.poll i) = s := by
  rw [step, hpoll, pollEvents_of_poll_eq hd hpoll, List.append_nil]

/-- A turn of a task is nothing, a move, or the begin of a run and then a move. -/
theorem poll_eq_or_move (factory : AwaitedFactory σ α) (h : s.cell.Seated) (i : Nat) :
    s.step factory (.poll i) = s ∨ TaskMove factory s (s.step factory (.poll i)) ∨
      s.cell.IsNext i ∧
        TaskMove factory ⟨s.cell.started factory i, s.history ++ [.began i (s.cell.runs + 1)]⟩
          (s.step factory (.poll i)) := by
  cases hi : s.cell.tasks[i]? with
  | none =>
    exact .inl (step_poll_of_poll_eq (by simp [hi]) (AwaitedCell.poll_of_over (by simp [hi])))
  | some t =>
    cases t with
    | fresh =>
      cases hp : s.cell.published with
      | some x => exact .inr (.inl (move_found h (.inl hi) hp))
      | none =>
        by_cases hpermit : s.cell.permit = none
        · have hnext : s.cell.IsNext i := ⟨hp, .inl ⟨hi, hpermit⟩⟩
          exact .inr (.inr ⟨hnext, move_begun h hnext⟩)
        · rw [step, AwaitedCell.poll_of_wait hi hp hpermit, pollEvents_of_wait hi hp hpermit]
          exact .inr (.inl (TaskMove.wait i hi hp hpermit))
    | queued =>
      cases hp : s.cell.published with
      | some x => exact .inr (.inl (move_found h (.inr hi) hp))
      | none =>
        by_cases hpermit : s.cell.permit = some i
        · have hnext : s.cell.IsNext i := ⟨hp, .inr ⟨hi, hpermit⟩⟩
          exact .inr (.inr ⟨hnext, move_begun h hnext⟩)
        · exact .inl (step_poll_of_poll_eq (by simp [hi])
            (AwaitedCell.poll_of_behind hi hp hpermit))
    | driving number r =>
      rw [step, AwaitedCell.poll_of_driving hi, pollEvents_of_driving hi]
      exact .inr (.inl (move_drive h hi))
    | finished _ | dropped =>
      exact .inl (step_poll_of_poll_eq (by simp [hi])
        (AwaitedCell.poll_of_over (by simp [hi, TaskStage.isOver])))

theorem drop_eq_or_move (factory : AwaitedFactory σ α) (s : Tasks σ α) (i : Nat) :
    s.step factory (.drop i) = s ∨ TaskMove factory s (s.step factory (.drop i)) := by
  by_cases hover : s.cell.tasks[i]?.all TaskStage.isOver = true
  · left
    rw [step, AwaitedCell.drop_of_over hover, dropEvents_of_over hover, List.append_nil]
  · right
    obtain ⟨t, hi, ht⟩ : ∃ t, s.cell.tasks[i]? = some t ∧ t.isOver = false := by
      cases hst : s.cell.tasks[i]? with
      | none => simp [hst] at hover
      | some t => exact ⟨t, rfl, by simpa [hst] using hover⟩
    rw [step, AwaitedCell.drop_of_unfinished hi ht, dropEvents_of_stage hi]
    exact TaskMove.finish i _ _ _ _ hi (.dropped t ht)

/-- A step changes nothing, or it is one move or two, of which the first begins a run. -/
theorem step_eq_or_moves (factory : AwaitedFactory σ α) (h : s.cell.Seated) (a : TaskAction) :
    s.step factory a = s ∨ TaskMove factory s (s.step factory a) ∨
      ∃ i, s.cell.IsNext i ∧
        TaskMove factory ⟨s.cell.started factory i, s.history ++ [.began i (s.cell.runs + 1)]⟩
          (s.step factory a) := by
  cases a with
  | call => exact .inr (.inl TaskMove.enter)
  | poll i => exact (poll_eq_or_move factory h i).imp_right (Or.imp_right fun hm => ⟨i, hm⟩)
  | drop i => exact (drop_eq_or_move factory s i).imp_right .inl

end Tasks

end PlatformLink.Singleton
