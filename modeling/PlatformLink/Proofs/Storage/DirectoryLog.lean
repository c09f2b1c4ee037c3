import PlatformLink.Storage.Directory

/-!
# The log of a directory

A directory is called by the names of files and through the handles it has given, which are numbered
in the order in which they were given. The log keeps of each call what it achieved, as its answer
tells. From the log alone follows which handles are live and what was uploaded through them; the
generations and the table of the directory play no part in it.
-/

namespace PlatformLink.Storage

/-! ## Runs -/

inductive DirectoryCall where
  | create (name contentType : String)
  | upload (handle : Nat) (text : String)
  | download (handle : Nat)
  | deleteFile (handle : Nat)
  | delete
  deriving Repr, DecidableEq

inductive DirectoryAnswer where
  | created (r : Outcome FileHandle)
  | done (r : Outcome Unit)
  | text (r : Outcome String)

structure DirectoryEvent where
  call : DirectoryCall
  answer : DirectoryAnswer

/-- The answer to a call, and the directory after it. There is none for a handle that was not
given. -/
def MemoryDirectory.respond (d : MemoryDirectory) (handles : List FileHandle) :
    DirectoryCall → Option (DirectoryAnswer × MemoryDirectory)
  | .create name contentType =>
    some (.created (d.createFile name contentType).1, (d.createFile name contentType).2)
  | .upload k text => handles[k]?.map fun h => (.done (d.upload h text).1, (d.upload h text).2)
  | .download k => handles[k]?.map fun h => (.text (d.download h), d)
  | .deleteFile k => handles[k]?.map fun h => (.done (d.deleteFile h).1, (d.deleteFile h).2)
  | .delete => some (.done d.delete.1, d.delete.2)

/-- What a call achieved. -/
inductive DirectoryEffect where
  | created (h : FileHandle)
  | uploaded (handle : Nat) (text : String)
  | fileDeleted (handle : Nat)
  | deleted
  | nothing

def DirectoryEvent.effect : DirectoryEvent → DirectoryEffect
  | ⟨.create _ _, .created (.ok h)⟩ => .created h
  | ⟨.upload k text, .done (.ok ())⟩ => .uploaded k text
  | ⟨.deleteFile k, .done (.ok ())⟩ => .fileDeleted k
  | ⟨.delete, .done (.ok ())⟩ => .deleted
  | _ => .nothing

namespace DirectoryEffect

def handle? : DirectoryEffect → Option FileHandle
  | created h => some h
  | _ => none

/-- What was uploaded through a handle. -/
def upload? (k : Nat) : DirectoryEffect → Option String
  | uploaded j text => if j = k then some text else none
  | _ => none

/-- The handle through which something was achieved. -/
def through? : DirectoryEffect → Option Nat
  | uploaded k _ | fileDeleted k => some k
  | _ => none

end DirectoryEffect

abbrev DirectoryLog := List DirectoryEffect

/-! ## What a log tells -/

namespace DirectoryLog

/-- The handles that were given. -/
def handles (log : DirectoryLog) : List FileHandle :=
  log.filterMap DirectoryEffect.handle?

/-- What was last uploaded through a handle. -/
def text (log : DirectoryLog) (k : Nat) : String :=
  (log.filterMap (DirectoryEffect.upload? k)).getLast?.getD ""

/-- No handle was given later for the same name. -/
def Newest (log : DirectoryLog) (k : Nat) : Prop :=
  ∃ h, log.handles[k]? = some h ∧
    ∀ j h', k < j → log.handles[j]? = some h' → h'.name ≠ h.name

/-- The newest handle of its name, as long as neither its file nor the directory was deleted. -/
structure Live (log : DirectoryLog) (k : Nat) : Prop where
  newest : log.Newest k
  file_kept : .fileDeleted k ∉ log
  directory_kept : .deleted ∉ log

variable {log : DirectoryLog} {e : DirectoryEffect} {k : Nat}

theorem handles_append (log more : DirectoryLog) :
    handles (log ++ more) = log.handles ++ handles more :=
  List.filterMap_append

theorem handles_concat_of_none (log : DirectoryLog) {e : DirectoryEffect}
    (he : e.handle? = none) : handles (log ++ [e]) = log.handles := by
  simp [handles, he]

/-- The handle that is given gets the next number. -/
theorem getElem?_handles_concat_created {h h' : FileHandle} :
    (handles (log ++ [.created h]))[k]? = some h' ↔
      log.handles[k]? = some h' ∨ k = log.handles.length ∧ h' = h := by
  have hconcat : handles (log ++ [.created h]) = log.handles ++ [h] := handles_append log _
  rw [hconcat]
  rcases Nat.lt_trichotomy k log.handles.length with hk | rfl | hk
  · simp [List.getElem?_append_left hk, Nat.ne_of_lt hk]
  · simp [eq_comm]
  · have hlong : (log.handles ++ [h]).length ≤ k := by
      rw [List.length_append, List.length_singleton]
      exact hk
    simp [List.getElem?_eq_none hlong, List.getElem?_eq_none (Nat.le_of_lt hk), Nat.ne_of_gt hk]

theorem text_concat (log : DirectoryLog) (e : DirectoryEffect) (k : Nat) :
    text (log ++ [e]) k = (e.upload? k).getD (log.text k) := by
  rw [text, List.filterMap_append]
  cases he : e.upload? k with
  | none => simp [he, text]
  | some t => simp [he]

/-- What is live later was live before: a handle that is not live never becomes so. -/
theorem live_of_live_append {more : DirectoryLog} (hk : k < log.handles.length)
    (h : Live (log ++ more) k) : log.Live k := by
  obtain ⟨⟨f, hf, hnewest⟩, hfile, hdirectory⟩ := h
  rw [handles_append] at hf hnewest
  refine ⟨⟨f, ?_, ?_⟩, ?_, ?_⟩
  · rwa [List.getElem?_append_left hk] at hf
  · intro j h' hj hh'
    refine hnewest j h' hj ?_
    rwa [List.getElem?_append_left (List.getElem?_eq_some_iff.mp hh').1]
  · exact fun hmem => hfile (List.mem_append_left _ hmem)
  · exact fun hmem => hdirectory (List.mem_append_left _ hmem)

theorem newest_concat_of_none (he : e.handle? = none) :
    Newest (log ++ [e]) k ↔ log.Newest k := by
  rw [Newest, handles_concat_of_none log he, Newest]

theorem live_concat_of_none (he : e.handle? = none) (hfile : e ≠ .fileDeleted k)
    (hdirectory : e ≠ .deleted) : Live (log ++ [e]) k ↔ log.Live k := by
  constructor
  · rintro ⟨hnewest, hkept, hexists⟩
    exact ⟨(newest_concat_of_none he).mp hnewest, fun hmem => hkept (List.mem_append_left _ hmem),
      fun hmem => hexists (List.mem_append_left _ hmem)⟩
  · rintro ⟨hnewest, hkept, hexists⟩
    refine ⟨(newest_concat_of_none he).mpr hnewest, ?_, ?_⟩
    · simp [hkept, Ne.symm hfile]
    · simp [hexists, Ne.symm hdirectory]

theorem not_live_concat_fileDeleted : ¬Live (log ++ [.fileDeleted k]) k :=
  fun h => h.file_kept (by simp)

theorem not_live_concat_deleted : ¬Live (log ++ [.deleted]) k :=
  fun h => h.directory_kept (by simp)

theorem newest_concat_created {h : FileHandle} :
    Newest (log ++ [.created h]) k ↔ k = log.handles.length ∨
      log.Newest k ∧ ∀ h', log.handles[k]? = some h' → h.name ≠ h'.name := by
  simp only [Newest, getElem?_handles_concat_created]
  constructor
  · rintro ⟨f, hf | ⟨hk, -⟩, hnewest⟩
    · have hk := (List.getElem?_eq_some_iff.mp hf).1
      refine Or.inr ⟨⟨f, hf, fun j h' hj hh' => hnewest j h' hj (Or.inl hh')⟩, fun h' hh' => ?_⟩
      rw [hf] at hh'
      rw [← Option.some.inj hh']
      exact hnewest _ h hk (Or.inr ⟨rfl, rfl⟩)
    · exact Or.inl hk
  · rintro (rfl | ⟨⟨f, hf, hnewest⟩, hname⟩)
    · refine ⟨h, Or.inr ⟨rfl, rfl⟩, ?_⟩
      rintro j h' hj (hh' | ⟨rfl, -⟩)
      · exact absurd (List.getElem?_eq_some_iff.mp hh').1 (Nat.lt_asymm hj)
      · exact absurd hj (Nat.lt_irrefl _)
    · refine ⟨f, Or.inl hf, ?_⟩
      rintro j h' hj (hh' | ⟨-, rfl⟩)
      · exact hnewest j h' hj hh'
      · exact hname f hf

/-- A handle that is given is live, and takes the place of the one of its name. -/
theorem live_concat_created {h : FileHandle} (hexists : .deleted ∉ log)
    (hnew : .fileDeleted log.handles.length ∉ log) :
    Live (log ++ [.created h]) k ↔ k = log.handles.length ∨
      log.Live k ∧ ∀ h', log.handles[k]? = some h' → h.name ≠ h'.name := by
  constructor
  · rintro ⟨hnewest, hkept, hdirectory⟩
    rcases newest_concat_created.mp hnewest with hk | ⟨hbefore, hname⟩
    · exact Or.inl hk
    · exact Or.inr ⟨⟨hbefore, fun hmem => hkept (List.mem_append_left _ hmem), hexists⟩, hname⟩
  · rintro (rfl | ⟨⟨hbefore, hkept, -⟩, hname⟩)
    · exact ⟨newest_concat_created.mpr (Or.inl rfl), by simp [hnew], by simp [hexists]⟩
    · exact ⟨newest_concat_created.mpr (Or.inr ⟨hbefore, hname⟩), by simp [hkept],
        by simp [hexists]⟩

end DirectoryLog

end PlatformLink.Storage
