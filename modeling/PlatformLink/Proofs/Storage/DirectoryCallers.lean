import Mathlib.Logic.Function.Basic
import PlatformLink.Proofs.Storage.Handles

/-!
# Callers of one directory

Any number of callers work on one directory, each making one call after the other. Files are created
and the directory is deleted at once. What is done through a handle takes two steps: the handle is
found current, and then the file is removed or written, and between the two the other callers go on.
A schedule says who moves next, so that the runs of all schedules are all interleavings of these
steps.

`CallersMove` says once what a step can do. From it follows that the directory is always as the
answers so far tell, whatever came between the two steps of a call.
-/

namespace PlatformLink.Storage

/-- What is left to do to the file of a handle that was found current. -/
inductive FileTask where
  | remove (handle : Nat)
  | write (handle : Nat) (text : String)

namespace FileTask

def handle : FileTask → Nat
  | remove k | write k _ => k

/-- The call that the task is the second step of. -/
def call : FileTask → DirectoryCall
  | remove k => .deleteFile k
  | write k text => .upload k text

/-- The second step. -/
def carryOut (d : MemoryDirectory) (h : FileHandle) : FileTask → MemoryDirectory
  | remove _ => d.removeEntry h
  | write _ text => d.writeEntry h text

/-- Both steps, with nobody between them. -/
def callAtOnce (d : MemoryDirectory) (h : FileHandle) : FileTask → Outcome Unit × MemoryDirectory
  | remove _ => d.deleteFile h
  | write _ text => d.upload h text

/-- A call that is refused achieves nothing. -/
theorem effect_error (task : FileTask) (e : LinkError) :
    DirectoryEvent.effect ⟨task.call, .done (.error e)⟩ = .nothing := by
  cases task <;> rfl

end FileTask

inductive CallerEvent where
  | passed (caller : Nat) (task : FileTask)
  | answered (caller : Nat) (e : DirectoryEvent)

/-- What an answer achieved. -/
def CallerEvent.effect? : CallerEvent → Option DirectoryEffect
  | passed _ _ => none
  | answered _ e => some e.effect

abbrev CallerHistory := List CallerEvent

/-- What the answers of a history tell of the directory. -/
def CallerHistory.log (history : CallerHistory) : DirectoryLog :=
  history.filterMap CallerEvent.effect?

theorem CallerHistory.log_concat_passed (history : CallerHistory) (caller : Nat)
    (task : FileTask) : log (history ++ [.passed caller task]) = history.log := by
  simp [log, CallerEvent.effect?]

theorem CallerHistory.log_concat_answered (history : CallerHistory) (caller : Nat)
    (e : DirectoryEvent) : log (history ++ [.answered caller e]) = history.log ++ [e.effect] := by
  simp [log, CallerEvent.effect?]

/-- What is scheduled next. -/
inductive CallerAction where
  | create (caller : Nat) (name contentType : String)
  | delete (caller : Nat)
  | check (caller : Nat) (task : FileTask)
  | carryOut (caller : Nat)

structure Callers where
  directory : MemoryDirectory
  /-- What the callers have left to do that are past a check. -/
  task : Nat → Option FileTask
  history : CallerHistory

namespace Callers

/-- Nobody has asked anything of the directory yet. -/
def new (name : String) (uri : Web.Url) : Callers :=
  ⟨⟨name, uri, false, [], 0⟩, fun _ => none, []⟩

def pass (s : Callers) (caller : Nat) (task : FileTask) : Callers where
  directory := s.directory
  task := Function.update s.task caller (some task)
  history := s.history ++ [.passed caller task]

def answer (s : Callers) (caller : Nat) (d : MemoryDirectory) (e : DirectoryEvent) : Callers where
  directory := d
  task := Function.update s.task caller none
  history := s.history ++ [.answered caller e]

theorem task_pass (s : Callers) (caller : Nat) (task : FileTask) :
    (s.pass caller task).task caller = some task :=
  Function.update_self ..

theorem task_answer (s : Callers) (caller : Nat) (d : MemoryDirectory) (e : DirectoryEvent) :
    (s.answer caller d e).task caller = none :=
  Function.update_self ..

/-- Whoever has a task after a check was passed has passed that check, or had its task before. -/
theorem of_task_pass {s : Callers} {caller c : Nat} {task t : FileTask}
    (h : (s.pass caller task).task c = some t) : (c = caller ∧ t = task) ∨ s.task c = some t := by
  by_cases hc : c = caller
  · rw [hc, task_pass] at h
    exact Or.inl ⟨hc, (Option.some.inj h).symm⟩
  · exact Or.inr ((Function.update_of_ne hc _ s.task).symm.trans h)

/-- Whoever has a task after an answer is somebody else than was answered, and had it before. -/
theorem of_task_answer {s : Callers} {caller c : Nat} {d : MemoryDirectory} {e : DirectoryEvent}
    {t : FileTask} (h : (s.answer caller d e).task c = some t) :
    c ≠ caller ∧ s.task c = some t := by
  by_cases hc : c = caller
  · rw [hc, task_answer] at h
    cases h
  · exact ⟨hc, (Function.update_of_ne hc _ s.task).symm.trans h⟩

/-- A caller that is past a check carries out its task before it calls again. -/
def step (s : Callers) : CallerAction → Callers
  | .create caller name contentType =>
    match s.task caller with
    | some _ => s
    | none =>
      let r := s.directory.createFile name contentType
      s.answer caller r.2 ⟨.create name contentType, .created r.1⟩
  | .delete caller =>
    match s.task caller with
    | some _ => s
    | none => s.answer caller s.directory.delete.2 ⟨.delete, .done s.directory.delete.1⟩
  | .check caller task =>
    match s.task caller, s.history.log.handles[task.handle]? with
    | none, some h =>
      match s.directory.ensureCurrent h with
      | .ok () => s.pass caller task
      | .error e => s.answer caller s.directory ⟨task.call, .done (.error e)⟩
    | _, _ => s
  | .carryOut caller =>
    match s.task caller with
    | none => s
    | some task =>
      match s.history.log.handles[task.handle]? with
      | none => s
      | some h => s.answer caller (task.carryOut s.directory h) ⟨task.call, .done (.ok ())⟩

def run (s : Callers) (schedule : List CallerAction) : Callers :=
  schedule.foldl step s

/-- A new directory after a schedule. -/
def after (name : String) (uri : Web.Url) (schedule : List CallerAction) : Callers :=
  (new name uri).run schedule

theorem after_concat (name : String) (uri : Web.Url) (schedule : List CallerAction)
    (a : CallerAction) : after name uri (schedule ++ [a]) = (after name uri schedule).step a :=
  List.foldl_concat ..

end Callers

/-! ## What a step can do -/

/-- The callers before a step and after it. -/
inductive CallersMove (s : Callers) : Callers → Prop where
  | atOnce (caller : Nat) (e : DirectoryEvent) (d : MemoryDirectory)
      (hidle : s.task caller = none) (hcall : ∀ task : FileTask, e.call ≠ task.call)
      (hmove : DirectoryMove s.directory s.history.log e.effect d) :
      CallersMove s (s.answer caller d e)
  | pass (caller : Nat) (task : FileTask) (h : FileHandle) (hidle : s.task caller = none)
      (hk : s.history.log.handles[task.handle]? = some h)
      (hcurrent : s.directory.ensureCurrent h = .ok ()) : CallersMove s (s.pass caller task)
  | refuse (caller : Nat) (task : FileTask) (h : FileHandle) (hidle : s.task caller = none)
      (hk : s.history.log.handles[task.handle]? = some h)
      (hgone : s.directory.ensureCurrent h = .error (.notFound (.file h.uri.text))) :
      CallersMove s (s.answer caller s.directory
        ⟨task.call, .done (.error (.notFound (.file h.uri.text)))⟩)
  | carryOut (caller : Nat) (task : FileTask) (h : FileHandle) (htask : s.task caller = some task)
      (hk : s.history.log.handles[task.handle]? = some h) :
      CallersMove s (s.answer caller (task.carryOut s.directory h) ⟨task.call, .done (.ok ())⟩)

namespace Callers

variable {s : Callers} {caller : Nat} {h : FileHandle}

theorem step_check_of_current (task : FileTask) (hidle : s.task caller = none)
    (hk : s.history.log.handles[task.handle]? = some h)
    (hcurrent : s.directory.ensureCurrent h = .ok ()) :
    s.step (.check caller task) = s.pass caller task := by
  simp only [step, hidle, hk, hcurrent]

theorem step_check_of_error (task : FileTask) (hidle : s.task caller = none)
    (hk : s.history.log.handles[task.handle]? = some h) {e : LinkError}
    (herror : s.directory.ensureCurrent h = .error e) :
    s.step (.check caller task) =
      s.answer caller s.directory ⟨task.call, .done (.error e)⟩ := by
  simp only [step, hidle, hk, herror]

theorem step_carryOut {task : FileTask} (htask : s.task caller = some task)
    (hk : s.history.log.handles[task.handle]? = some h) :
    s.step (.carryOut caller) =
      s.answer caller (task.carryOut s.directory h) ⟨task.call, .done (.ok ())⟩ := by
  simp only [step, htask, hk]

/-- A step changes nothing, or it is one of the moves. -/
theorem step_eq_or_move (s : Callers) (a : CallerAction) :
    s.step a = s ∨ CallersMove s (s.step a) := by
  cases a with
  | create caller name contentType =>
    cases htask : s.task caller with
    | some task => exact Or.inl (by simp only [step, htask])
    | none =>
      right
      simp only [step, htask]
      exact .atOnce caller _ _ htask nofun (MemoryDirectory.move_create _ _ name contentType)
  | delete caller =>
    cases htask : s.task caller with
    | some task => exact Or.inl (by simp only [step, htask])
    | none =>
      right
      simp only [step, htask]
      exact .atOnce caller _ _ htask nofun (MemoryDirectory.move_delete _ _)
  | check caller task =>
    cases htask : s.task caller with
    | some other => exact Or.inl (by simp only [step, htask])
    | none =>
      cases hk : s.history.log.handles[task.handle]? with
      | none => exact Or.inl (by simp only [step, htask, hk])
      | some h =>
        right
        cases hentry : s.directory.entry? h with
        | some e =>
          have hcurrent := MemoryDirectory.ensureCurrent_eq_ok_iff.mpr ⟨e, hentry⟩
          rw [step_check_of_current task htask hk hcurrent]
          exact .pass caller task h htask hk hcurrent
        | none =>
          have hgone := MemoryDirectory.ensureCurrent_of_none hentry
          rw [step_check_of_error task htask hk hgone]
          exact .refuse caller task h htask hk hgone
  | carryOut caller =>
    cases htask : s.task caller with
    | none => exact Or.inl (by simp only [step, htask])
    | some task =>
      cases hk : s.history.log.handles[task.handle]? with
      | none => exact Or.inl (by simp only [step, htask, hk])
      | some h =>
        right
        rw [step_carryOut htask hk]
        exact .carryOut caller task h htask hk

/-- The last step of a schedule changes nothing, or it is one of the moves. -/
theorem after_concat_eq_or_move (name : String) (uri : Web.Url) (schedule : List CallerAction)
    (a : CallerAction) :
    after name uri (schedule ++ [a]) = after name uri schedule ∨
      CallersMove (after name uri schedule) (after name uri (schedule ++ [a])) := by
  rw [after_concat]
  exact step_eq_or_move _ a

/-- What every move keeps holds after every run. -/
theorem run_induction {P : Callers → Prop} (keep : ∀ s s', P s → CallersMove s s' → P s')
    {s : Callers} (h : P s) (schedule : List CallerAction) : P (s.run schedule) := by
  induction schedule generalizing s with
  | nil => exact h
  | cons a rest ih =>
    apply ih
    rcases step_eq_or_move s a with heq | hmove
    · rw [heq]
      exact h
    · exact keep s _ h hmove

/-! ## The directory is as the answers tell -/

theorem mirrors_carryOut {d : MemoryDirectory} {log : DirectoryLog} {task : FileTask}
    (hm : Mirrors d log) (hk : log.handles[task.handle]? = some h) :
    Mirrors (task.carryOut d h) (log ++ [DirectoryEvent.effect ⟨task.call, .done (.ok ())⟩]) := by
  cases task with
  | remove k => exact hm.deleteFile hk
  | write k text => exact hm.upload hk text

theorem mirrors_move {s s' : Callers} (hm : Mirrors s.directory s.history.log)
    (hmove : CallersMove s s') : Mirrors s'.directory s'.history.log := by
  cases hmove with
  | atOnce caller e d hidle hcall hmove =>
    rw [answer, CallerHistory.log_concat_answered]
    exact hm.of_move hmove
  | pass caller task h hidle hk hcurrent =>
    rw [Callers.pass, CallerHistory.log_concat_passed]
    exact hm
  | refuse caller task h hidle hk hgone =>
    rw [answer, CallerHistory.log_concat_answered, task.effect_error]
    exact hm.stay
  | carryOut caller task h htask hk =>
    rw [answer, CallerHistory.log_concat_answered]
    exact mirrors_carryOut hm hk

theorem mirrors_after (name : String) (uri : Web.Url) (schedule : List CallerAction) :
    Mirrors (after name uri schedule).directory (after name uri schedule).history.log :=
  run_induction (P := fun s => Mirrors s.directory s.history.log)
    (fun _ _ => mirrors_move) (DirectoryRun.mirrors_new name uri) schedule

/-! ## The call as it is written -/

/-- With nobody between its two steps a call is the one on the directory. -/
theorem run_check_carryOut (task : FileTask) (hidle : s.task caller = none)
    (hk : s.history.log.handles[task.handle]? = some h) :
    (s.run [.check caller task, .carryOut caller]).directory = (task.callAtOnce s.directory h).2 ∧
      (s.run [.check caller task, .carryOut caller]).history.getLast? =
        some (.answered caller ⟨task.call, .done (task.callAtOnce s.directory h).1⟩) := by
  have hrun : s.run [.check caller task, .carryOut caller] =
      (s.step (.check caller task)).step (.carryOut caller) := rfl
  rw [hrun]
  cases hcurrent : s.directory.ensureCurrent h with
  | ok u =>
    have hkept : (s.pass caller task).history.log.handles[task.handle]? = some h := by
      rw [Callers.pass, CallerHistory.log_concat_passed, hk]
    have hcall : task.callAtOnce s.directory h = (.ok (), task.carryOut s.directory h) := by
      cases task <;> simp only [FileTask.callAtOnce, FileTask.carryOut,
        MemoryDirectory.deleteFile, MemoryDirectory.upload, hcurrent]
    rw [step_check_of_current task hidle hk hcurrent, step_carryOut (task_pass ..) hkept, hcall]
    exact ⟨rfl, List.getLast?_concat ..⟩
  | error e =>
    have hstill : ∀ d event, (s.answer caller d event).step (.carryOut caller) =
        s.answer caller d event := by
      intro d event
      simp only [step, task_answer]
    have hcall : task.callAtOnce s.directory h = (.error e, s.directory) := by
      cases task <;> simp only [FileTask.callAtOnce, MemoryDirectory.deleteFile,
        MemoryDirectory.upload, hcurrent]
    rw [step_check_of_error task hidle hk hcurrent, hstill, hcall]
    exact ⟨rfl, List.getLast?_concat ..⟩

end Callers

end PlatformLink.Storage
