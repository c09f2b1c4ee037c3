import PlatformLink.Proofs.Outcome
import PlatformLink.Proofs.Storage.DirectoryLog
import PlatformLink.Proofs.Storage.FileTable

/-!
# Handles of files

`DirectoryMove` says once what a call can do to a directory. From it follows that the table always
holds exactly the files of the handles that the log tells to be live, with what was last uploaded
through them (`Mirrors`). What an operation on a handle answers is then a matter of the log alone.
-/

namespace PlatformLink.Storage

/-! ## What a call can do -/

/-- A directory before a call, what the call achieves, and the directory after it. -/
inductive DirectoryMove (d : MemoryDirectory) (log : DirectoryLog) :
    DirectoryEffect → MemoryDirectory → Prop where
  | create (h : FileHandle) (hexists : d.deleted = false) (hh : h.generation = d.nextGeneration) :
      DirectoryMove d log (.created h)
        { d with
          files := insertEntry ⟨h.name, h.generation, ""⟩ d.files
          nextGeneration := d.nextGeneration + 1 }
  | upload (k : Nat) (h : FileHandle) (text : String) (hk : log.handles[k]? = some h)
      (hcurrent : d.ensureCurrent h = .ok ()) :
      DirectoryMove d log (.uploaded k text) (d.writeEntry h text)
  | deleteFile (k : Nat) (h : FileHandle) (hk : log.handles[k]? = some h)
      (hcurrent : d.ensureCurrent h = .ok ()) :
      DirectoryMove d log (.fileDeleted k) (d.removeEntry h)
  | delete (hexists : d.deleted = false) :
      DirectoryMove d log .deleted { d with deleted := true, files := [] }
  | stay : DirectoryMove d log .nothing d

namespace MemoryDirectory

theorem generation_of_newHandle {d : MemoryDirectory} {name contentType : String} {h : FileHandle}
    (hh : d.newHandle name contentType = .ok h) : h.generation = d.nextGeneration := by
  obtain ⟨n, -, hh⟩ := bind_eq_ok_iff.mp hh
  obtain ⟨t, -, hh⟩ := bind_eq_ok_iff.mp hh
  obtain ⟨u, -, hh⟩ := bind_eq_ok_iff.mp hh
  rw [← Except.ok.inj hh]

theorem ensureExists_of_deleted {d : MemoryDirectory} (h : d.deleted = true) :
    d.ensureExists = .error (.notFound (.directory d.name)) := by
  simp [ensureExists, h]

theorem ensureExists_of_not_deleted {d : MemoryDirectory} (h : d.deleted = false) :
    d.ensureExists = .ok () := by
  simp [ensureExists, h]

theorem move_create (d : MemoryDirectory) (log : DirectoryLog) (name contentType : String) :
    DirectoryMove d log
      (DirectoryEvent.effect ⟨.create name contentType, .created (d.createFile name contentType).1⟩)
      (d.createFile name contentType).2 := by
  cases hh : d.newHandle name contentType with
  | error e =>
    have hcreate : d.createFile name contentType = (.error e, d) := by
      simp [createFile, hh]
    rw [hcreate]
    exact .stay
  | ok h =>
    cases hd : d.deleted with
    | true =>
      have hcreate : d.createFile name contentType =
          (.error (.notFound (.directory d.name)), d) := by
        simp [createFile, hh, ensureExists_of_deleted hd]
      rw [hcreate]
      exact .stay
    | false =>
      simp only [createFile, hh, ensureExists_of_not_deleted hd]
      exact .create h hd (generation_of_newHandle hh)

theorem move_upload {d : MemoryDirectory} {log : DirectoryLog} {k : Nat} {h : FileHandle}
    (hk : log.handles[k]? = some h) (text : String) :
    DirectoryMove d log (DirectoryEvent.effect ⟨.upload k text, .done (d.upload h text).1⟩)
      (d.upload h text).2 := by
  cases hcurrent : d.ensureCurrent h with
  | error e =>
    simp only [upload, hcurrent]
    exact .stay
  | ok u =>
    simp only [upload, hcurrent]
    exact .upload k h text hk hcurrent

theorem move_deleteFile {d : MemoryDirectory} {log : DirectoryLog} {k : Nat} {h : FileHandle}
    (hk : log.handles[k]? = some h) :
    DirectoryMove d log (DirectoryEvent.effect ⟨.deleteFile k, .done (d.deleteFile h).1⟩)
      (d.deleteFile h).2 := by
  cases hcurrent : d.ensureCurrent h with
  | error e =>
    simp only [deleteFile, hcurrent]
    exact .stay
  | ok u =>
    simp only [deleteFile, hcurrent]
    exact .deleteFile k h hk hcurrent

theorem move_delete (d : MemoryDirectory) (log : DirectoryLog) :
    DirectoryMove d log (DirectoryEvent.effect ⟨.delete, .done d.delete.1⟩) d.delete.2 := by
  cases hd : d.deleted with
  | true =>
    simp only [delete, ensureExists_of_deleted hd]
    exact .stay
  | false =>
    simp only [delete, ensureExists_of_not_deleted hd]
    exact .delete hd

theorem move_respond {d d' : MemoryDirectory} {log : DirectoryLog} {c : DirectoryCall}
    {a : DirectoryAnswer} (h : d.respond log.handles c = some (a, d')) :
    DirectoryMove d log (DirectoryEvent.effect ⟨c, a⟩) d' := by
  cases c with
  | create name contentType =>
    cases h
    exact move_create d log name contentType
  | delete =>
    cases h
    exact move_delete d log
  | upload k text =>
    obtain ⟨f, hk, ha⟩ := Option.map_eq_some_iff.mp h
    cases ha
    exact move_upload hk text
  | download k =>
    obtain ⟨f, hk, ha⟩ := Option.map_eq_some_iff.mp h
    cases ha
    exact .stay
  | deleteFile k =>
    obtain ⟨f, hk, ha⟩ := Option.map_eq_some_iff.mp h
    cases ha
    exact move_deleteFile hk

end MemoryDirectory

/-! ## The table holds the files of the live handles -/

namespace DirectoryLog

/-- The file of a live handle, with what was last uploaded through it. -/
def Holds (log : DirectoryLog) (e : FileEntry) : Prop :=
  ∃ k h, log.handles[k]? = some h ∧ log.Live k ∧ e = ⟨h.name, k, log.text k⟩

/-- Whatever is achieved through a handle is achieved through one that was given. -/
def Known (log : DirectoryLog) : Prop :=
  ∀ e ∈ log, ∀ k, e.through? = some k → k < log.handles.length

theorem Known.text_length {log : DirectoryLog} (h : log.Known) :
    log.text log.handles.length = "" := by
  have hnone : log.filterMap (DirectoryEffect.upload? log.handles.length) = [] := by
    refine List.filterMap_eq_nil_iff.mpr fun e he => ?_
    cases e with
    | uploaded j t =>
      have hlt := h _ he j rfl
      simp [DirectoryEffect.upload?, Nat.ne_of_lt hlt]
    | _ => rfl
  simp [text, hnone]

theorem Known.fileDeleted_notMem {log : DirectoryLog} (h : log.Known) :
    .fileDeleted log.handles.length ∉ log := fun hmem =>
  Nat.lt_irrefl _ (h _ hmem _ rfl)

theorem Known.concat {log : DirectoryLog} {e : DirectoryEffect} (h : log.Known)
    (he : ∀ k, e.through? = some k → k < log.handles.length) : Known (log ++ [e]) := by
  have hle : log.handles.length ≤ (handles (log ++ [e])).length := by
    rw [handles_append, List.length_append]
    exact Nat.le_add_right _ _
  intro f hf k hk
  rcases List.mem_append.mp hf with hf | hf
  · exact Nat.lt_of_lt_of_le (h f hf k hk) hle
  · rw [List.mem_singleton.mp hf] at hk
    exact Nat.lt_of_lt_of_le (he k hk) hle

end DirectoryLog

/-- A directory is as its log tells. -/
structure Mirrors (d : MemoryDirectory) (log : DirectoryLog) : Prop where
  sorted : Sorted d.files
  deleted_iff : d.deleted = true ↔ .deleted ∈ log
  next : d.nextGeneration = log.handles.length
  numbered : ∀ k (h : FileHandle), log.handles[k]? = some h → h.generation = k
  known : log.Known
  mem_files : ∀ e, e ∈ d.files ↔ log.Holds e

namespace Mirrors

open DirectoryLog

variable {d d' : MemoryDirectory} {log : DirectoryLog} {e : DirectoryEffect} {k : Nat}
  {h : FileHandle}

theorem isOf_iff (hm : Mirrors d log) (hk : log.handles[k]? = some h) {j : Nat} {f : FileHandle}
    (hj : log.handles[j]? = some f) {content : String} :
    (⟨f.name, j, content⟩ : FileEntry).IsOf h ↔ j = k := by
  constructor
  · rintro ⟨-, hgeneration⟩
    exact hgeneration.trans (hm.numbered k h hk)
  · rintro rfl
    rw [hk] at hj
    rw [← Option.some.inj hj]
    exact ⟨rfl, (hm.numbered j h hk).symm⟩

theorem entry?_of_live (hm : Mirrors d log) (hk : log.handles[k]? = some h) (hlive : log.Live k) :
    d.entry? h = some ⟨h.name, k, log.text k⟩ := by
  rw [MemoryDirectory.entry?_eq_some_iff hm.sorted]
  exact ⟨(hm.mem_files _).mpr ⟨k, h, hk, hlive, rfl⟩, (hm.isOf_iff hk hk).mpr rfl⟩

theorem entry?_of_not_live (hm : Mirrors d log) (hk : log.handles[k]? = some h)
    (hlive : ¬log.Live k) : d.entry? h = none := by
  rw [Option.eq_none_iff_forall_not_mem]
  intro e he
  obtain ⟨hmem, hof⟩ := (MemoryDirectory.entry?_eq_some_iff hm.sorted).mp he
  obtain ⟨j, f, hj, hjlive, rfl⟩ := (hm.mem_files e).mp hmem
  exact hlive ((hm.isOf_iff hk hj).mp hof ▸ hjlive)

theorem ensureCurrent_eq_ok_iff (hm : Mirrors d log) (hk : log.handles[k]? = some h) :
    d.ensureCurrent h = .ok () ↔ log.Live k := by
  rw [MemoryDirectory.ensureCurrent_eq_ok_iff]
  by_cases hlive : log.Live k
  · simp [hm.entry?_of_live hk hlive, hlive]
  · simp [hm.entry?_of_not_live hk hlive, hlive]

theorem create (hm : Mirrors d log) (hexists : d.deleted = false)
    (hh : h.generation = d.nextGeneration) :
    Mirrors
      { d with
        files := insertEntry ⟨h.name, h.generation, ""⟩ d.files
        nextGeneration := d.nextGeneration + 1 }
      (log ++ [.created h]) := by
  have hnot : .deleted ∉ log := by
    rw [← hm.deleted_iff, hexists]
    exact Bool.false_ne_true
  have hgeneration : h.generation = log.handles.length := hh.trans hm.next
  have htext : ∀ j, text (log ++ [.created h]) j = log.text j := fun j => text_concat log _ j
  constructor
  case sorted => exact sorted_insertEntry hm.sorted _
  case deleted_iff => simpa [hexists] using hnot
  case next => simp [handles, DirectoryEffect.handle?, hm.next]
  case numbered =>
    intro j f hj
    rcases getElem?_handles_concat_created.mp hj with hj | ⟨rfl, rfl⟩
    · exact hm.numbered j f hj
    · exact hgeneration
  case known =>
    refine hm.known.concat ?_
    intro k hk
    cases hk
  case mem_files =>
    intro e
    rw [mem_insertEntry hm.sorted, hm.mem_files]
    constructor
    · rintro (rfl | ⟨⟨j, f, hj, hlive, rfl⟩, hname⟩)
      · refine ⟨log.handles.length, h, getElem?_handles_concat_created.mpr (Or.inr ⟨rfl, rfl⟩),
          (live_concat_created hnot hm.known.fileDeleted_notMem).mpr (Or.inl rfl), ?_⟩
        rw [htext, hm.known.text_length, hgeneration]
      · refine ⟨j, f, getElem?_handles_concat_created.mpr (Or.inl hj), ?_, ?_⟩
        · refine (live_concat_created hnot hm.known.fileDeleted_notMem).mpr
            (Or.inr ⟨hlive, fun f' hf' => ?_⟩)
          rw [hj] at hf'
          rw [← Option.some.inj hf']
          exact Ne.symm hname
        · rw [htext]
    · rintro ⟨j, f, hj, hlive, rfl⟩
      rcases getElem?_handles_concat_created.mp hj with hj | ⟨rfl, rfl⟩
      · have hjlt := (List.getElem?_eq_some_iff.mp hj).1
        rcases (live_concat_created hnot hm.known.fileDeleted_notMem).mp hlive with rfl | hbefore
        · exact absurd hjlt (Nat.lt_irrefl _)
        · refine Or.inr ⟨⟨j, f, hj, hbefore.1, ?_⟩, Ne.symm (hbefore.2 f hj)⟩
          rw [htext]
      · left
        rw [htext, hm.known.text_length, hgeneration]

/-- Where no handle is given it is enough to look at the table. -/
theorem concat_of_none (hm : Mirrors d log) (he : e.handle? = none) (hsorted : Sorted d'.files)
    (hdeleted : d'.deleted = true ↔ .deleted ∈ log ++ [e])
    (hnext : d'.nextGeneration = d.nextGeneration)
    (hthrough : ∀ k, e.through? = some k → k < log.handles.length)
    (hfiles : ∀ f, f ∈ d'.files ↔ Holds (log ++ [e]) f) : Mirrors d' (log ++ [e]) where
  sorted := hsorted
  deleted_iff := hdeleted
  next := by rw [hnext, hm.next, handles_concat_of_none log he]
  numbered := by
    rw [handles_concat_of_none log he]
    exact hm.numbered
  known := hm.known.concat hthrough
  mem_files := hfiles

theorem upload (hm : Mirrors d log) (hk : log.handles[k]? = some h) (content : String) :
    Mirrors (d.writeEntry h content) (log ++ [.uploaded k content]) := by
  have hhandles := handles_concat_of_none log (e := .uploaded k content) rfl
  have hlive : ∀ j, Live (log ++ [.uploaded k content]) j ↔ log.Live j := fun j =>
    live_concat_of_none rfl nofun nofun
  have htext : ∀ j, text (log ++ [.uploaded k content]) j =
      if k = j then content else log.text j := by
    intro j
    rw [text_concat, DirectoryEffect.upload?]
    by_cases hj : k = j <;> simp [hj]
  refine hm.concat_of_none rfl (MemoryDirectory.sorted_writeEntry hm.sorted content) ?_ rfl ?_ ?_
  · simpa [MemoryDirectory.writeEntry] using hm.deleted_iff
  · intro j hj
    rw [← Option.some.inj hj]
    exact (List.getElem?_eq_some_iff.mp hk).1
  · intro f
    simp only [MemoryDirectory.mem_files_writeEntry, hm.mem_files, Holds, hhandles, hlive, htext]
    constructor
    · rintro (⟨⟨j, g, hj, hjlive, rfl⟩, hof⟩ | ⟨_, ⟨j, g, hj, hjlive, rfl⟩, hof, rfl⟩)
      · rw [hm.isOf_iff hk hj] at hof
        exact ⟨j, g, hj, hjlive, by rw [if_neg (Ne.symm hof)]⟩
      · rw [hm.isOf_iff hk hj] at hof
        exact ⟨j, g, hj, hjlive, by rw [if_pos hof.symm]⟩
    · rintro ⟨j, g, hj, hjlive, rfl⟩
      by_cases hjk : j = k
      · exact Or.inr ⟨_, ⟨j, g, hj, hjlive, rfl⟩, (hm.isOf_iff hk hj).mpr hjk,
          by rw [if_pos hjk.symm]⟩
      · rw [if_neg (Ne.symm hjk)]
        exact Or.inl ⟨⟨j, g, hj, hjlive, rfl⟩, fun hof => hjk ((hm.isOf_iff hk hj).mp hof)⟩

theorem deleteFile (hm : Mirrors d log) (hk : log.handles[k]? = some h) :
    Mirrors (d.removeEntry h) (log ++ [.fileDeleted k]) := by
  have hhandles := handles_concat_of_none log (e := .fileDeleted k) rfl
  have hlive : ∀ j, Live (log ++ [.fileDeleted k]) j ↔ log.Live j ∧ j ≠ k := by
    intro j
    by_cases hj : j = k
    · subst hj
      simp [not_live_concat_fileDeleted]
    · rw [live_concat_of_none rfl (fun heq => hj (DirectoryEffect.fileDeleted.inj heq).symm) nofun]
      simp [hj]
  have htext : ∀ j, text (log ++ [.fileDeleted k]) j = log.text j := fun j => text_concat log _ j
  refine hm.concat_of_none rfl (MemoryDirectory.sorted_removeEntry hm.sorted) ?_ rfl ?_ ?_
  · simpa [MemoryDirectory.removeEntry] using hm.deleted_iff
  · intro j hj
    rw [← Option.some.inj hj]
    exact (List.getElem?_eq_some_iff.mp hk).1
  · intro f
    simp only [MemoryDirectory.mem_files_removeEntry, hm.mem_files, Holds, hhandles, hlive, htext]
    constructor
    · rintro ⟨⟨j, g, hj, hjlive, rfl⟩, hof⟩
      rw [hm.isOf_iff hk hj] at hof
      exact ⟨j, g, hj, ⟨hjlive, hof⟩, rfl⟩
    · rintro ⟨j, g, hj, ⟨hjlive, hjk⟩, rfl⟩
      exact ⟨⟨j, g, hj, hjlive, rfl⟩, fun hof => hjk ((hm.isOf_iff hk hj).mp hof)⟩

theorem delete (hm : Mirrors d log) :
    Mirrors { d with deleted := true, files := [] } (log ++ [.deleted]) := by
  refine hm.concat_of_none rfl .nil ?_ rfl nofun fun f => ?_
  · simp
  · refine iff_of_false List.not_mem_nil ?_
    rintro ⟨j, g, -, hlive, -⟩
    exact not_live_concat_deleted hlive

theorem stay (hm : Mirrors d log) : Mirrors d (log ++ [.nothing]) := by
  have hhandles := handles_concat_of_none log (e := .nothing) rfl
  have hlive : ∀ j, Live (log ++ [.nothing]) j ↔ log.Live j := fun j =>
    live_concat_of_none rfl nofun nofun
  have htext : ∀ j, text (log ++ [.nothing]) j = log.text j := fun j => text_concat log _ j
  refine hm.concat_of_none rfl hm.sorted ?_ rfl nofun fun f => ?_
  · simpa using hm.deleted_iff
  · simp only [hm.mem_files, Holds, hhandles, hlive, htext]

theorem of_move (hm : Mirrors d log) (hmove : DirectoryMove d log e d') :
    Mirrors d' (log ++ [e]) := by
  cases hmove with
  | create f hexists hf => exact hm.create hexists hf
  | upload k f content hk hcurrent => exact hm.upload hk content
  | deleteFile k f hk hcurrent => exact hm.deleteFile hk
  | delete hexists => exact hm.delete
  | stay => exact hm.stay

end Mirrors

/-! ## Every run -/

structure DirectoryRun where
  directory : MemoryDirectory
  history : List DirectoryEvent

namespace DirectoryRun

def log (r : DirectoryRun) : DirectoryLog :=
  r.history.map DirectoryEvent.effect

/-- A directory that nothing was asked of yet, as `MemoryDirectory.new` makes it. -/
def new (name : String) (uri : Web.Url) : DirectoryRun :=
  ⟨⟨name, uri, false, [], 0⟩, []⟩

def step (r : DirectoryRun) (c : DirectoryCall) : DirectoryRun :=
  match r.directory.respond r.log.handles c with
  | some (a, d) => ⟨d, r.history ++ [⟨c, a⟩]⟩
  | none => r

def run (r : DirectoryRun) (calls : List DirectoryCall) : DirectoryRun :=
  calls.foldl step r

/-- A new directory after calls. -/
def after (name : String) (uri : Web.Url) (calls : List DirectoryCall) : DirectoryRun :=
  (new name uri).run calls

/-- A step changes nothing, or it is one of the moves and adds to the log what it achieved. -/
theorem step_eq_or_move (r : DirectoryRun) (c : DirectoryCall) :
    r.step c = r ∨ ∃ e, DirectoryMove r.directory r.log e (r.step c).directory ∧
      (r.step c).log = r.log ++ [e] := by
  unfold step
  cases hr : r.directory.respond r.log.handles c with
  | none => exact Or.inl rfl
  | some x =>
    refine Or.inr ⟨DirectoryEvent.effect ⟨c, x.1⟩, MemoryDirectory.move_respond hr, ?_⟩
    simp [log]

theorem mirrors_run {r : DirectoryRun} (h : Mirrors r.directory r.log)
    (calls : List DirectoryCall) : Mirrors (r.run calls).directory (r.run calls).log := by
  induction calls generalizing r with
  | nil => exact h
  | cons c rest ih =>
    apply ih
    rcases step_eq_or_move r c with heq | ⟨e, hmove, hlog⟩
    · rw [heq]
      exact h
    · rw [hlog]
      exact h.of_move hmove

theorem mirrors_new (name : String) (uri : Web.Url) :
    Mirrors (new name uri).directory (new name uri).log where
  sorted := .nil
  deleted_iff := by simp [new, log]
  next := rfl
  numbered := nofun
  known := nofun
  mem_files e := by
    refine iff_of_false List.not_mem_nil ?_
    rintro ⟨k, h, hk, -⟩
    cases hk

/-- The log only grows. -/
theorem log_prefix_run (r : DirectoryRun) (calls : List DirectoryCall) :
    r.log <+: (r.run calls).log := by
  induction calls generalizing r with
  | nil => exact List.prefix_rfl
  | cons c rest ih =>
    refine List.IsPrefix.trans ?_ (ih (r.step c))
    rcases step_eq_or_move r c with heq | ⟨e, -, hlog⟩
    · exact ⟨[], by rw [heq, List.append_nil]⟩
    · exact ⟨[e], hlog.symm⟩

/-- What the operations answer on the handles given so far, and what they leave as it is. -/
structure Answering (r : DirectoryRun) : Prop where
  /-- A handle is current exactly while it is live. -/
  current_iff : ∀ k h, r.log.handles[k]? = some h →
    (r.directory.ensureCurrent h = .ok () ↔ r.log.Live k)
  /-- Through a live handle all operations succeed, and what is read is what was last uploaded
  through this very handle. -/
  download : ∀ k h, r.log.handles[k]? = some h → r.log.Live k →
    r.directory.download h = .ok (r.log.text k)
  upload : ∀ k h, r.log.handles[k]? = some h → r.log.Live k → ∀ content,
    (r.directory.upload h content).1 = .ok ()
  deleteFile : ∀ k h, r.log.handles[k]? = some h → r.log.Live k →
    (r.directory.deleteFile h).1 = .ok ()
  /-- Through a handle that is not live nothing is found, and nothing is changed. -/
  stale_download : ∀ k h, r.log.handles[k]? = some h → ¬r.log.Live k →
    r.directory.download h = .error (.notFound (.file h.uri.text))
  stale_upload : ∀ k h, r.log.handles[k]? = some h → ¬r.log.Live k → ∀ content,
    r.directory.upload h content = (.error (.notFound (.file h.uri.text)), r.directory)
  stale_deleteFile : ∀ k h, r.log.handles[k]? = some h → ¬r.log.Live k →
    r.directory.deleteFile h = (.error (.notFound (.file h.uri.text)), r.directory)
  /-- A handle that is not live never becomes so again. -/
  stale_forever : ∀ k h, r.log.handles[k]? = some h → ¬r.log.Live k →
    ∀ more, ¬(r.run more).log.Live k

theorem answering_of_mirrors {r : DirectoryRun} (hm : Mirrors r.directory r.log) :
    r.Answering := by
  constructor
  case current_iff => exact fun k h hk => hm.ensureCurrent_eq_ok_iff hk
  case download =>
    intro k h hk hlive
    simp only [MemoryDirectory.download, hm.entry?_of_live hk hlive]
  case upload =>
    intro k h hk hlive content
    simp only [MemoryDirectory.upload, (hm.ensureCurrent_eq_ok_iff hk).mpr hlive]
  case deleteFile =>
    intro k h hk hlive
    simp only [MemoryDirectory.deleteFile, (hm.ensureCurrent_eq_ok_iff hk).mpr hlive]
  case stale_download =>
    intro k h hk hlive
    simp only [MemoryDirectory.download, hm.entry?_of_not_live hk hlive]
  case stale_upload =>
    intro k h hk hlive content
    simp only [MemoryDirectory.upload,
      MemoryDirectory.ensureCurrent_of_none (hm.entry?_of_not_live hk hlive)]
  case stale_deleteFile =>
    intro k h hk hlive
    simp only [MemoryDirectory.deleteFile,
      MemoryDirectory.ensureCurrent_of_none (hm.entry?_of_not_live hk hlive)]
  case stale_forever =>
    intro k h hk hstale more hlive
    obtain ⟨added, hadded⟩ := log_prefix_run r more
    rw [← hadded] at hlive
    exact hstale (DirectoryLog.live_of_live_append (List.getElem?_eq_some_iff.mp hk).1 hlive)

/-- After every run of a directory the handles given so far answer as their log tells. -/
theorem handles_answer (name : String) (uri : Web.Url) (calls : List DirectoryCall) :
    (after name uri calls).Answering :=
  answering_of_mirrors (mirrors_run (mirrors_new name uri) calls)

end DirectoryRun

end PlatformLink.Storage
