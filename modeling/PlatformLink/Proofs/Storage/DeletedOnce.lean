import Mathlib.Data.List.Induction
import Mathlib.Data.List.Nodup
import PlatformLink.Proofs.Histories
import PlatformLink.Proofs.Storage.DirectoryCallers
import PlatformLink.Proofs.Storage.Naming

/-!
# Who deleted a file

A caller that is told that it deleted a file had found the handle current, and that before anybody
was told so; whoever comes later is told that the file is gone. So callers that are told so of one
file were past their checks at the same time, and only the first of them took the file away. Where
no two callers are about to delete one file, one caller at most is told so.
-/

namespace PlatformLink.Storage

/-- The answer by which a caller is told that it deleted the file of a handle. -/
def deletedThrough (k : Nat) : DirectoryEvent :=
  ⟨.deleteFile k, .done (.ok ())⟩

/-- What a caller is answered that deletes through a handle: that it deleted the file, or that the
file is not found. -/
def DirectoryLog.AnswersDeletion (log : DirectoryLog) (k : Nat) (a : DirectoryAnswer) : Prop :=
  ∃ h, log.handles[k]? = some h ∧
    (a = .done (.ok ()) ∨ a = .done (.error (.notFound (.file h.uri.text))))

/-- The caller that is told that it deleted the file of a handle. -/
def CallerEvent.deleter? (k : Nat) : CallerEvent → Option Nat
  | answered caller ⟨.deleteFile j, .done (.ok ())⟩ => if j = k then some caller else none
  | _ => none

theorem CallerEvent.deleter?_eq_some_iff {e : CallerEvent} {k caller : Nat} :
    e.deleter? k = some caller ↔ e = .answered caller (deletedThrough k) := by
  constructor
  · intro h
    unfold deleter? at h
    split at h
    next =>
      obtain ⟨rfl, hcaller⟩ := Option.ite_none_right_eq_some.mp h
      rw [Option.some.inj hcaller, deletedThrough]
    next => cases h
  · rintro rfl
    exact if_pos rfl

theorem DirectoryEvent.effect_eq_fileDeleted_iff {e : DirectoryEvent} {k : Nat} :
    e.effect = .fileDeleted k ↔ e = deletedThrough k := by
  constructor
  · intro h
    unfold effect at h
    split at h <;> cases h
    rfl
  · rintro rfl
    rfl

namespace CallerHistory

/-- The callers that were told that they deleted the file of a handle. -/
def deleters (history : CallerHistory) (k : Nat) : List Nat :=
  history.filterMap (CallerEvent.deleter? k)

variable {history : CallerHistory} {k caller : Nat}

theorem mem_deleters_iff :
    caller ∈ history.deleters k ↔ .answered caller (deletedThrough k) ∈ history := by
  simp only [deleters, List.mem_filterMap, CallerEvent.deleter?_eq_some_iff, exists_eq_right]

theorem deleters_eq_nil_iff : history.deleters k = [] ↔ .fileDeleted k ∉ history.log := by
  have hlog : .fileDeleted k ∈ history.log ↔ ∃ caller, caller ∈ history.deleters k := by
    simp only [log, List.mem_filterMap, mem_deleters_iff]
    constructor
    · rintro ⟨e, he, heffect⟩
      cases e with
      | passed caller task => cases heffect
      | answered caller e =>
        rw [DirectoryEvent.effect_eq_fileDeleted_iff.mp (Option.some.inj heffect)] at he
        exact ⟨caller, he⟩
    · rintro ⟨caller, he⟩
      exact ⟨_, he, rfl⟩
  rw [hlog, List.eq_nil_iff_forall_not_mem, not_exists]

theorem deleters_concat (history : CallerHistory) (e : CallerEvent) (k : Nat) :
    deleters (history ++ [e]) k = history.deleters k ++ (e.deleter? k).toList := by
  rw [deleters, List.filterMap_append]
  cases h : e.deleter? k <;> simp [h, deleters]

theorem deleters_concat_of_ne {e : DirectoryEvent} (h : e ≠ deletedThrough k) :
    deleters (history ++ [.answered caller e]) k = history.deleters k := by
  have hnone : (CallerEvent.answered caller e).deleter? k = none := by
    rw [Option.eq_none_iff_forall_ne_some]
    intro c hc
    cases CallerEvent.deleter?_eq_some_iff.mp hc
    exact h rfl
  rw [deleters_concat, hnone, Option.toList_none, List.append_nil]

theorem deleters_concat_deletedThrough :
    deleters (history ++ [.answered caller (deletedThrough k)]) k =
      history.deleters k ++ [caller] := by
  rw [deleters_concat, CallerEvent.deleter?_eq_some_iff.mpr rfl]
  rfl

theorem handles_concat_answered {e : DirectoryEvent} {h : FileHandle}
    (hk : history.log.handles[k]? = some h) :
    (log (history ++ [.answered caller e])).handles[k]? = some h := by
  rw [log_concat_answered, DirectoryLog.handles_append,
    List.getElem?_append_left (List.getElem?_eq_some_iff.mp hk).1, hk]

end CallerHistory

/-- What is known of an event from what came before it: a check is passed before anybody was told
that it deleted the file, and who is told so has passed a check. -/
structure CallerEvent.Follows (before : CallerHistory) (e : CallerEvent) : Prop where
  undeleted : ∀ caller k, e = .passed caller (.remove k) → before.deleters k = []
  passed : ∀ caller k, e = .answered caller (deletedThrough k) →
    .passed caller (.remove k) ∈ before

namespace Callers

/-- What holds of the callers after every run. -/
structure Sound (s : Callers) : Prop where
  known : ∀ caller task, s.task caller = some task →
    ∃ h, s.history.log.handles[task.handle]? = some h
  passed : ∀ caller task, s.task caller = some task → .passed caller task ∈ s.history
  follows : ∀ before e later, s.history = before ++ e :: later → e.Follows before
  /-- Nobody is about to delete what it was told that it deleted. -/
  rests : ∀ caller k, caller ∈ s.history.deleters k → s.task caller ≠ some (.remove k)
  nodup : ∀ k, (s.history.deleters k).Nodup
  answers : ∀ caller k a, .answered caller ⟨.deleteFile k, a⟩ ∈ s.history →
    s.history.log.AnswersDeletion k a

theorem sound_new (name : String) (uri : Web.Url) : (new name uri).Sound where
  known caller task h := by cases h
  passed caller task h := by cases h
  follows before e later h := by simp [new] at h
  rests caller k h := by cases h
  nodup _ := List.nodup_nil
  answers caller k a h := by cases h

variable {s : Callers} {caller : Nat} {task : FileTask} {h : FileHandle} {k : Nat}

theorem deleters_pass (s : Callers) (caller : Nat) (task : FileTask) (k : Nat) :
    (s.pass caller task).history.deleters k = s.history.deleters k :=
  (CallerHistory.deleters_concat ..).trans (List.append_nil _)

/-- While a handle is current nobody was told that it deleted its file. -/
theorem deleters_of_current (hm : Mirrors s.directory s.history.log)
    (hk : s.history.log.handles[k]? = some h)
    (hcurrent : s.directory.ensureCurrent h = .ok ()) : s.history.deleters k = [] := by
  have hlive := (hm.ensureCurrent_eq_ok_iff hk).mp hcurrent
  exact CallerHistory.deleters_eq_nil_iff.mpr hlive.file_kept

theorem Sound.pass (hs : s.Sound) (hk : s.history.log.handles[task.handle]? = some h)
    (hnone : s.history.deleters task.handle = []) : (s.pass caller task).Sound := by
  have hlog : (s.pass caller task).history.log = s.history.log :=
    CallerHistory.log_concat_passed ..
  have hdeleters := deleters_pass s caller task
  constructor
  case known =>
    intro c t hc
    rw [hlog]
    rcases of_task_pass hc with ⟨rfl, rfl⟩ | hc
    · exact ⟨h, hk⟩
    · exact hs.known c t hc
  case passed =>
    intro c t hc
    rcases of_task_pass hc with ⟨rfl, rfl⟩ | hc
    · exact List.mem_concat_self
    · exact List.mem_append_left _ (hs.passed c t hc)
  case follows =>
    refine forall_split_concat_iff.mpr ⟨hs.follows, ?_, ?_⟩
    · intro c j he
      cases he
      exact hnone
    · intro c j he
      cases he
  case rests =>
    intro c j hc hremove
    rw [hdeleters] at hc
    rcases of_task_pass hremove with ⟨rfl, rfl⟩ | hremove
    · exact absurd hc (hnone ▸ List.not_mem_nil)
    · exact hs.rests c j hc hremove
  case nodup =>
    intro j
    rw [hdeleters]
    exact hs.nodup j
  case answers =>
    intro c j a hc
    rw [hlog]
    rcases List.mem_append.mp hc with hc | hc
    · exact hs.answers c j a hc
    · cases List.mem_singleton.mp hc

/-- An answer is given, and who is told by it that it deleted a file was about to do so. -/
theorem Sound.answer (hs : s.Sound) (d : MemoryDirectory) {e : DirectoryEvent}
    (htold : ∀ k, e = deletedThrough k → s.task caller = some (.remove k))
    (hanswer : ∀ k a, e = ⟨.deleteFile k, a⟩ → s.history.log.AnswersDeletion k a) :
    (s.answer caller d e).Sound := by
  constructor
  case known =>
    intro c t hc
    obtain ⟨h, hk⟩ := hs.known c t (of_task_answer hc).2
    exact ⟨h, CallerHistory.handles_concat_answered hk⟩
  case passed =>
    intro c t hc
    exact List.mem_append_left _ (hs.passed c t (of_task_answer hc).2)
  case follows =>
    refine forall_split_concat_iff.mpr ⟨hs.follows, ?_, ?_⟩
    · intro c k he
      cases he
    · intro c k he
      cases he
      exact hs.passed _ _ (htold k rfl)
  case rests =>
    intro c k hc hremove
    obtain ⟨hother, hremove⟩ := of_task_answer hremove
    rcases List.mem_append.mp (CallerHistory.mem_deleters_iff.mp hc) with hc | hc
    · exact hs.rests c k (CallerHistory.mem_deleters_iff.mpr hc) hremove
    · cases List.mem_singleton.mp hc
      exact hother rfl
  case nodup =>
    intro k
    by_cases he : e = deletedThrough k
    · subst he
      have hnew : caller ∉ s.history.deleters k := fun hc => hs.rests caller k hc (htold k rfl)
      rw [Callers.answer, CallerHistory.deleters_concat_deletedThrough, ← List.concat_eq_append]
      exact List.Nodup.concat hnew (hs.nodup k)
    · rw [Callers.answer, CallerHistory.deleters_concat_of_ne he]
      exact hs.nodup k
  case answers =>
    intro c k a hc
    have hknown : s.history.log.AnswersDeletion k a := by
      rcases List.mem_append.mp hc with hc | hc
      · exact hs.answers c k a hc
      · cases List.mem_singleton.mp hc
        exact hanswer k a rfl
    obtain ⟨h, hk, ha⟩ := hknown
    exact ⟨h, CallerHistory.handles_concat_answered hk, ha⟩

theorem Sound.move {s s' : Callers} (hs : s.Sound) (hm : Mirrors s.directory s.history.log)
    (hmove : CallersMove s s') : s'.Sound := by
  cases hmove with
  | pass caller task h hidle hk hcurrent => exact hs.pass hk (deleters_of_current hm hk hcurrent)
  | atOnce caller e d hidle hcall hmove =>
    refine hs.answer d ?_ ?_
    · rintro k rfl
      exact absurd rfl (hcall (.remove k))
    · rintro k a rfl
      exact absurd rfl (hcall (.remove k))
  | refuse caller task h hidle hk hgone =>
    refine hs.answer s.directory ?_ ?_
    · intro k he
      cases (congrArg DirectoryEvent.answer he)
    · intro k a he
      cases task <;> cases he
      exact ⟨h, hk, Or.inr rfl⟩
  | carryOut caller task h htask hk =>
    refine hs.answer _ ?_ ?_
    · intro k he
      cases task <;> cases he
      exact htask
    · intro k a he
      cases task <;> cases he
      exact ⟨h, hk, Or.inl rfl⟩

theorem sound_after (name : String) (uri : Web.Url) (schedule : List CallerAction) :
    (after name uri schedule).Sound := by
  induction schedule using List.reverseRecOn with
  | nil => exact sound_new name uri
  | append_singleton schedule a ih =>
    rcases after_concat_eq_or_move name uri schedule a with heq | hmove
    · rw [heq]
      exact ih
    · exact ih.move (mirrors_after name uri schedule) hmove

/-! ## One caller at a time -/

/-- At most one caller is about to delete the file of a handle. -/
def Alone (s : Callers) (k : Nat) : Prop :=
  ∀ caller other, s.task caller = some (.remove k) → s.task other = some (.remove k) →
    caller = other

/-- One caller at most was told that it deleted the file, and nobody is about to do so again. -/
structure Settled (s : Callers) (k : Nat) : Prop where
  length_le : (s.history.deleters k).length ≤ 1
  rests : s.history.deleters k ≠ [] → ∀ caller, s.task caller ≠ some (.remove k)

theorem Settled.answer_of_ne (hs : s.Settled k) {d : MemoryDirectory} {e : DirectoryEvent}
    (he : e ≠ deletedThrough k) : (s.answer caller d e).Settled k := by
  have hdeleters : (s.answer caller d e).history.deleters k = s.history.deleters k :=
    CallerHistory.deleters_concat_of_ne he
  constructor
  case length_le =>
    rw [hdeleters]
    exact hs.length_le
  case rests =>
    intro htold c hremove
    rw [hdeleters] at htold
    exact hs.rests htold c (of_task_answer hremove).2

theorem Settled.move {s s' : Callers} (hs : s.Settled k)
    (hm : Mirrors s.directory s.history.log) (halone : s.Alone k) (hmove : CallersMove s s') :
    s'.Settled k := by
  cases hmove with
  | atOnce caller e d hidle hcall hmove =>
    refine hs.answer_of_ne ?_
    rintro rfl
    exact hcall (.remove k) rfl
  | refuse caller task h hidle hk hgone =>
    refine hs.answer_of_ne fun he => ?_
    cases (congrArg DirectoryEvent.answer he)
  | pass caller task h hidle hk hcurrent =>
    have hdeleters : (s.pass caller task).history.deleters k = s.history.deleters k :=
      deleters_pass ..
    constructor
    case length_le =>
      rw [hdeleters]
      exact hs.length_le
    case rests =>
      intro htold c hremove
      rw [hdeleters] at htold
      rcases of_task_pass hremove with ⟨rfl, rfl⟩ | hremove
      · exact htold (deleters_of_current hm hk hcurrent)
      · exact hs.rests htold c hremove
  | carryOut caller task h htask hk =>
    by_cases hremove : task = .remove k
    · subst hremove
      have hnone : s.history.deleters k = [] := by
        by_contra htold
        exact hs.rests htold caller htask
      have hone : (s.answer caller (s.directory.removeEntry h)
          (deletedThrough k)).history.deleters k = [caller] := by
        rw [Callers.answer, CallerHistory.deleters_concat_deletedThrough, hnone, List.nil_append]
      refine ⟨Nat.le_of_eq (congrArg List.length hone), fun _ c hc => ?_⟩
      obtain ⟨hother, hc⟩ := of_task_answer hc
      exact hother (halone c caller hc htask)
    · refine hs.answer_of_ne fun he => hremove ?_
      cases task <;> cases he
      rfl

theorem settled_after (name : String) (uri : Web.Url) {schedule : List CallerAction}
    (halone : ∀ a, a <+: schedule → (after name uri a).Alone k) :
    (after name uri schedule).Settled k := by
  induction schedule using List.reverseRecOn with
  | nil => exact ⟨Nat.zero_le 1, fun h => absurd rfl h⟩
  | append_singleton schedule a ih =>
    have hsettled := ih fun b hb => halone b (hb.trans (List.prefix_append ..))
    have halone := halone schedule (List.prefix_append ..)
    rcases after_concat_eq_or_move name uri schedule a with heq | hmove
    · rw [heq]
      exact hsettled
    · exact hsettled.move (mirrors_after name uri schedule) halone hmove

/-! ## What is deleted -/

/-- How files are deleted by callers that come between each other. -/
structure Deletions (s : Callers) : Prop where
  /-- A deletion succeeds, or it does not find the file. -/
  answers : ∀ caller k a, .answered caller ⟨.deleteFile k, a⟩ ∈ s.history →
    s.history.log.AnswersDeletion k a
  /-- Which of the two, is decided by the check: it is passed while the handle is live. -/
  check_live : ∀ caller k h, s.task caller = none → s.history.log.handles[k]? = some h →
    s.history.log.Live k → s.step (.check caller (.remove k)) = s.pass caller (.remove k)
  check_stale : ∀ caller k h, s.task caller = none → s.history.log.handles[k]? = some h →
    ¬s.history.log.Live k →
    s.step (.check caller (.remove k)) = s.answer caller s.directory
      ⟨.deleteFile k, .done (.error (.notFound (.file h.uri.text)))⟩
  /-- Whoever is past its check takes the file away if it is still there. -/
  removes : ∀ caller k h, s.task caller = some (.remove k) →
    s.history.log.handles[k]? = some h →
    s.step (.carryOut caller) = s.answer caller (s.directory.removeEntry h) (deletedThrough k) ∧
      MemoryDirectory.entry? (s.step (.carryOut caller)).directory h = none
  /-- If the file is not there any more, it is told all the same that it deleted it. -/
  idle : ∀ caller k, s.task caller = some (.remove k) → ¬s.history.log.Live k →
    s.step (.carryOut caller) = s.answer caller s.directory (deletedThrough k)
  /-- The files of all other handles stay, those of the same name among them. -/
  others_kept : ∀ caller k, s.task caller = some (.remove k) → ∀ j h, j ≠ k →
    s.history.log.handles[j]? = some h →
    MemoryDirectory.entry? (s.step (.carryOut caller)).directory h = s.directory.entry? h
  /-- Once somebody was told that it deleted the file, the handle is not current any more. -/
  gone : ∀ k h, s.history.deleters k ≠ [] → s.history.log.handles[k]? = some h →
    s.directory.ensureCurrent h = .error (.notFound (.file h.uri.text))
  /-- Whoever was told so had passed its check before anybody was told so. -/
  passed_before : ∀ before later caller k,
    s.history = before ++ .answered caller (deletedThrough k) :: later →
    ∃ earlier between, before = earlier ++ .passed caller (.remove k) :: between ∧
      CallerHistory.deleters earlier k = []
  once_each : ∀ k, (s.history.deleters k).Nodup
  /-- The two steps are those of the call as it is written. -/
  steps : ∀ caller k h, s.task caller = none → s.history.log.handles[k]? = some h →
    (s.run [.check caller (.remove k), .carryOut caller]).directory =
        (s.directory.deleteFile h).2 ∧
      (s.run [.check caller (.remove k), .carryOut caller]).history.getLast? =
        some (.answered caller ⟨.deleteFile k, .done (s.directory.deleteFile h).1⟩)

theorem Sound.deletions (hs : s.Sound) (hm : Mirrors s.directory s.history.log) :
    s.Deletions := by
  constructor
  case answers => exact hs.answers
  case check_live =>
    intro caller k h hidle hk hlive
    exact step_check_of_current (.remove k) hidle hk ((hm.ensureCurrent_eq_ok_iff hk).mpr hlive)
  case check_stale =>
    intro caller k h hidle hk hlive
    exact step_check_of_error (.remove k) hidle hk
      (MemoryDirectory.ensureCurrent_of_none (hm.entry?_of_not_live hk hlive))
  case removes =>
    intro caller k h htask hk
    have hstep := step_carryOut htask hk
    refine ⟨hstep, ?_⟩
    rw [hstep]
    refine (hm.deleteFile hk).entry?_of_not_live ?_ DirectoryLog.not_live_concat_fileDeleted
    rw [DirectoryLog.handles_concat_of_none _ rfl, hk]
  case idle =>
    intro caller k htask hlive
    obtain ⟨h, hk⟩ := hs.known caller _ htask
    have hnothing : s.directory.removeEntry h = s.directory :=
      MemoryDirectory.removeEntry_of_none (hm.entry?_of_not_live hk hlive)
    rw [step_carryOut htask hk, FileTask.carryOut, hnothing]
    rfl
  case others_kept =>
    intro caller k htask j f hj hf
    obtain ⟨h, hk⟩ := hs.known caller _ htask
    rw [step_carryOut htask hk]
    apply MemoryDirectory.entry?_removeEntry_of_ne
    rw [hm.numbered j f hf, hm.numbered k h hk]
    exact hj
  case gone =>
    intro k h htold hk
    have hlive : ¬s.history.log.Live k := fun hlive =>
      htold (CallerHistory.deleters_eq_nil_iff.mpr hlive.file_kept)
    exact MemoryDirectory.ensureCurrent_of_none (hm.entry?_of_not_live hk hlive)
  case passed_before =>
    intro before later caller k hhistory
    have hpassed := (hs.follows before _ later hhistory).passed caller k rfl
    obtain ⟨earlier, between, rfl⟩ := List.append_of_mem hpassed
    refine ⟨earlier, between, rfl, ?_⟩
    rw [List.append_assoc, List.cons_append] at hhistory
    exact (hs.follows earlier _ _ hhistory).undeleted caller k rfl
  case once_each => exact hs.nodup
  case steps => exact fun caller k h hidle hk => run_check_carryOut (.remove k) hidle hk

/-- Whatever is scheduled, files are deleted by whoever finds the handle current first; and where no
two callers are past their checks on one handle at the same time, one at most is told that it
deleted the file. -/
theorem deletions_after (name : String) (uri : Web.Url) (schedule : List CallerAction) :
    (after name uri schedule).Deletions ∧
      ∀ k, (∀ a, a <+: schedule → (after name uri a).Alone k) →
        ((after name uri schedule).history.deleters k).length ≤ 1 :=
  ⟨(sound_after name uri schedule).deletions (mirrors_after name uri schedule),
    fun _ halone => (settled_after name uri halone).length_le⟩

/-- Two callers find one handle current. Both are told that they deleted its file, and the second
one did nothing: the file that it finds under the name is another one, and stays. -/
theorem two_deletions_succeed :
    (after "docs" (directoryUrl "docs")
        [.create 0 "a.txt" "text/plain", .check 0 (.remove 0), .check 1 (.remove 0), .carryOut 0,
          .create 0 "a.txt" "text/plain", .carryOut 1]).history.deleters 0 = [0, 1] ∧
      (after "docs" (directoryUrl "docs")
        [.create 0 "a.txt" "text/plain", .check 0 (.remove 0), .check 1 (.remove 0), .carryOut 0,
          .create 0 "a.txt" "text/plain", .carryOut 1]).directory.listFiles = .ok ["a.txt"] := by
  decide +kernel

end Callers

end PlatformLink.Storage
