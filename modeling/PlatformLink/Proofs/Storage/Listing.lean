import PlatformLink.Proofs.Storage.Handles
import PlatformLink.Proofs.Storage.Naming
import PlatformLink.Proofs.Text.OctetOrder

/-!
# The list of a directory

While a directory is there it lists the live files in the order of the octets of their names. Once
it was deleted there is none: the table is empty, and whatever is asked of the directory or of a
file that it ever held is answered with not found.
-/

namespace PlatformLink.Storage

namespace MemoryDirectory

/-- Every accepted name has a directory. -/
theorem new_of_entityName {name : String}
    (h : Validation.entityName "directory name" name = .ok name) :
    new name = .ok ⟨name, directoryUrl name, false, [], 0⟩ := by
  have hparse := parse_directory (Validation.entityName_eq_ok h).2
  rw [new, h]
  simp only [ok_mapError, ok_bind, hparse]
  rfl

theorem new_eq_ok {name : String} {d : MemoryDirectory} (h : new name = .ok d) :
    Validation.entityName "directory name" name = .ok name ∧
      d = ⟨name, directoryUrl name, false, [], 0⟩ := by
  obtain ⟨name', hname, -⟩ := bind_eq_ok_iff.mp h
  have haccepted := mapError_eq_ok_iff.mp hname
  obtain ⟨rfl, -⟩ := Validation.entityName_eq_ok haccepted
  rw [new_of_entityName haccepted] at h
  exact ⟨haccepted, (Except.ok.inj h).symm⟩

/-- Accepted arguments are enough for a handle. -/
theorem newHandle_eq {d : MemoryDirectory} {directory : String}
    (huri : d.uri = directoryUrl directory) {name contentType : String}
    (hname : Validation.entityName "file name" name = .ok name)
    (htype : Validation.notBlank "content type" contentType = .ok contentType) :
    d.newHandle name contentType =
      .ok ⟨name, fileUrl directory name, contentType, d.nextGeneration⟩ := by
  have hjoin := join_file directory (Validation.entityName_eq_ok hname).2
  simp only [newHandle, hname, htype, huri, ok_mapError, ok_bind, hjoin]
  rfl

variable {d d' : MemoryDirectory} {log : DirectoryLog} {e : DirectoryEffect}

/-- Accepted arguments are enough for a file, while the directory is there. -/
theorem createFile_of_there {directory : String} (huri : d.uri = directoryUrl directory)
    (hthere : d.ensureExists = .ok ()) {name contentType : String}
    (hname : Validation.entityName "file name" name = .ok name)
    (htype : Validation.notBlank "content type" contentType = .ok contentType) :
    d.createFile name contentType =
      (.ok ⟨name, fileUrl directory name, contentType, d.nextGeneration⟩,
        { d with
          files := insertEntry ⟨name, d.nextGeneration, ""⟩ d.files
          nextGeneration := d.nextGeneration + 1 }) := by
  simp only [createFile, newHandle_eq huri hname htype, hthere]

/-- A creation that fails changes nothing. -/
theorem createFile_of_error {name contentType : String} {e : LinkError}
    (h : (d.createFile name contentType).1 = .error e) : (d.createFile name contentType).2 = d := by
  unfold createFile at h ⊢
  split
  · rfl
  · rfl
  next hh hd =>
    rw [hh, hd] at h
    cases h

/-- No call changes what a directory is called and where it is. -/
theorem name_uri_of_move (h : DirectoryMove d log e d') : d'.name = d.name ∧ d'.uri = d.uri := by
  cases h <;> exact ⟨rfl, rfl⟩

theorem deleted_createFile (d : MemoryDirectory) (name contentType : String) :
    (d.createFile name contentType).2.deleted = d.deleted := by
  unfold createFile
  split <;> rfl

theorem deleted_upload (d : MemoryDirectory) (h : FileHandle) (text : String) :
    (d.upload h text).2.deleted = d.deleted := by
  unfold upload
  split <;> rfl

theorem deleted_deleteFile (d : MemoryDirectory) (h : FileHandle) :
    (d.deleteFile h).2.deleted = d.deleted := by
  unfold deleteFile
  split <;> rfl

theorem deleted_delete (d : MemoryDirectory) : d.delete.2.deleted = true := by
  cases hd : d.deleted with
  | true => simp [delete, ensureExists_of_deleted hd, hd]
  | false => simp [delete, ensureExists_of_not_deleted hd]

/-- Only the deletion of the directory deletes it, and nothing brings it back. -/
theorem deleted_respond {handles : List FileHandle} {c : DirectoryCall} {a : DirectoryAnswer}
    (h : d.respond handles c = some (a, d')) :
    d'.deleted = true ↔ d.deleted = true ∨ c = .delete := by
  cases c with
  | create name contentType =>
    cases h
    simp [deleted_createFile]
  | delete =>
    cases h
    simp [deleted_delete]
  | upload k text =>
    obtain ⟨f, -, ha⟩ := Option.map_eq_some_iff.mp h
    cases ha
    simp [deleted_upload]
  | download k =>
    obtain ⟨f, -, ha⟩ := Option.map_eq_some_iff.mp h
    cases ha
    simp
  | deleteFile k =>
    obtain ⟨f, -, ha⟩ := Option.map_eq_some_iff.mp h
    cases ha
    simp [deleted_deleteFile]

end MemoryDirectory

namespace Mirrors

variable {d : MemoryDirectory} {log : DirectoryLog}

/-- The names in the table are those of the live files. -/
theorem mem_names_iff (hm : Mirrors d log) (n : String) :
    n ∈ d.files.map (·.name) ↔ ∃ k h, log.handles[k]? = some h ∧ log.Live k ∧ h.name = n := by
  rw [List.mem_map]
  constructor
  · rintro ⟨e, he, rfl⟩
    obtain ⟨k, h, hk, hlive, rfl⟩ := (hm.mem_files e).mp he
    exact ⟨k, h, hk, hlive, rfl⟩
  · rintro ⟨k, h, hk, hlive, rfl⟩
    exact ⟨_, (hm.mem_files _).mpr ⟨k, h, hk, hlive, rfl⟩, rfl⟩

theorem pairwise_octets (hm : Mirrors d log) :
    (d.files.map (·.name)).Pairwise fun a b => Text.octets a < Text.octets b :=
  List.pairwise_map.mpr (hm.sorted.imp Text.octets_lt_octets)

theorem not_live_of_deleted (hm : Mirrors d log) (hd : d.deleted = true) (k : Nat) : ¬log.Live k :=
  fun hlive => hlive.directory_kept (hm.deleted_iff.mp hd)

theorem files_of_deleted (hm : Mirrors d log) (hd : d.deleted = true) : d.files = [] := by
  refine List.eq_nil_iff_forall_not_mem.mpr fun e he => ?_
  obtain ⟨k, h, -, hlive, -⟩ := (hm.mem_files e).mp he
  exact hm.not_live_of_deleted hd k hlive

end Mirrors

namespace DirectoryRun

theorem name_uri_run (r : DirectoryRun) (calls : List DirectoryCall) :
    (r.run calls).directory.name = r.directory.name ∧
      (r.run calls).directory.uri = r.directory.uri := by
  induction calls generalizing r with
  | nil => exact ⟨rfl, rfl⟩
  | cons c rest ih =>
    obtain ⟨hname, huri⟩ := ih (r.step c)
    have hstep : (r.step c).directory.name = r.directory.name ∧
        (r.step c).directory.uri = r.directory.uri := by
      rcases step_eq_or_move r c with heq | ⟨e, hmove, -⟩
      · rw [heq]
        exact ⟨rfl, rfl⟩
      · exact MemoryDirectory.name_uri_of_move hmove
    exact ⟨hname.trans hstep.1, huri.trans hstep.2⟩

theorem deleted_step (r : DirectoryRun) (c : DirectoryCall) :
    (r.step c).directory.deleted = true ↔ r.directory.deleted = true ∨ c = .delete := by
  unfold step
  cases hr : r.directory.respond r.log.handles c with
  | none =>
    have hne : c ≠ .delete := by
      rintro rfl
      cases hr
    simp [hne]
  | some x => exact MemoryDirectory.deleted_respond hr

/-- A directory is deleted as soon as its deletion was asked for once. -/
theorem deleted_run (r : DirectoryRun) (calls : List DirectoryCall) :
    (r.run calls).directory.deleted = true ↔ r.directory.deleted = true ∨ .delete ∈ calls := by
  induction calls generalizing r with
  | nil => simp [run]
  | cons c rest ih =>
    have hrun : r.run (c :: rest) = (r.step c).run rest := rfl
    rw [hrun, ih, deleted_step, List.mem_cons, or_assoc, eq_comm (a := c)]

/-- What a directory answers after calls, as long as it is there and once it was deleted. -/
structure Listing (r : DirectoryRun) (calls : List DirectoryCall) : Prop where
  /-- The names of the live files are listed, each once and in the order of their octets. -/
  listed : .delete ∉ calls → ∃ names, r.directory.listFiles = .ok names ∧
    (∀ n, n ∈ names ↔ ∃ k h, r.log.handles[k]? = some h ∧ r.log.Live k ∧ h.name = n) ∧
    names.Pairwise fun a b => Text.octets a < Text.octets b
  /-- Accepted arguments are enough for a file, while the directory is there. -/
  created : .delete ∉ calls → ∀ name contentType,
    Validation.entityName "file name" name = .ok name →
    Validation.notBlank "content type" contentType = .ok contentType →
    ∃ h, (r.directory.createFile name contentType).1 = .ok h ∧ h.name = name
  /-- A creation that is refused changes nothing. -/
  refused : ∀ name contentType e, (r.directory.createFile name contentType).1 = .error e →
    (r.directory.createFile name contentType).2 = r.directory
  first_delete : .delete ∉ calls → r.directory.delete.1 = .ok ()
  /-- After the deletion there is no file, and nothing is found. -/
  emptied : .delete ∈ calls → r.directory.files = []
  listFiles_deleted : .delete ∈ calls →
    r.directory.listFiles = .error (.notFound (.directory r.directory.name))
  delete_deleted : .delete ∈ calls →
    r.directory.delete = (.error (.notFound (.directory r.directory.name)), r.directory)
  create_deleted : .delete ∈ calls → ∀ name contentType,
    Validation.entityName "file name" name = .ok name →
    Validation.notBlank "content type" contentType = .ok contentType →
    r.directory.createFile name contentType =
      (.error (.notFound (.directory r.directory.name)), r.directory)
  /-- No file that the directory ever held can be read. -/
  unreadable : .delete ∈ calls → ∀ (k : Nat) (h : FileHandle), r.log.handles[k]? = some h →
    r.directory.download h = .error (.notFound (.file h.uri.text))

theorem listing_of_mirrors {r : DirectoryRun} {calls : List DirectoryCall}
    (hm : Mirrors r.directory r.log) (hdeleted : r.directory.deleted = true ↔ .delete ∈ calls)
    {directory : String} (huri : r.directory.uri = directoryUrl directory) : r.Listing calls := by
  have hthere : .delete ∉ calls → r.directory.ensureExists = .ok () := fun hcalls =>
    MemoryDirectory.ensureExists_of_not_deleted
      (Bool.eq_false_iff.mpr fun h => hcalls (hdeleted.mp h))
  have hgone : .delete ∈ calls →
      r.directory.ensureExists = .error (.notFound (.directory r.directory.name)) := fun hcalls =>
    MemoryDirectory.ensureExists_of_deleted (hdeleted.mpr hcalls)
  constructor
  case listed =>
    intro hcalls
    refine ⟨r.directory.files.map (·.name), ?_, hm.mem_names_iff, hm.pairwise_octets⟩
    rw [MemoryDirectory.listFiles, hthere hcalls, ok_bind]
    rfl
  case created =>
    intro hcalls name contentType hname htype
    have hcreated := MemoryDirectory.createFile_of_there huri (hthere hcalls) hname htype
    exact ⟨_, congrArg Prod.fst hcreated, rfl⟩
  case refused => exact fun name contentType e h => MemoryDirectory.createFile_of_error h
  case first_delete =>
    intro hcalls
    simp only [MemoryDirectory.delete, hthere hcalls]
  case emptied => exact fun hcalls => hm.files_of_deleted (hdeleted.mpr hcalls)
  case listFiles_deleted =>
    intro hcalls
    rw [MemoryDirectory.listFiles, hgone hcalls, error_bind]
  case delete_deleted =>
    intro hcalls
    simp only [MemoryDirectory.delete, hgone hcalls]
  case create_deleted =>
    intro hcalls name contentType hname htype
    have hhandle := MemoryDirectory.newHandle_eq huri hname htype
    simp only [MemoryDirectory.createFile, hhandle, hgone hcalls]
  case unreadable =>
    intro hcalls k h hk
    have hstale := hm.not_live_of_deleted (hdeleted.mpr hcalls) k
    simp only [MemoryDirectory.download, hm.entry?_of_not_live hk hstale]

/-- After every run of a new directory its list is the one of the live files, and after its deletion
nothing of it is found. -/
theorem lists_live_files {name : String} {d : MemoryDirectory}
    (hd : MemoryDirectory.new name = .ok d) (calls : List DirectoryCall) :
    (after d.name d.uri calls).directory.name = name ∧
      (after d.name d.uri calls).Listing calls := by
  obtain ⟨-, rfl⟩ := MemoryDirectory.new_eq_ok hd
  obtain ⟨hname, huri⟩ := name_uri_run (new name (directoryUrl name)) calls
  refine ⟨hname, ?_⟩
  refine listing_of_mirrors (mirrors_run (mirrors_new name (directoryUrl name)) calls) ?_ huri
  rw [after, deleted_run]
  simp [new]

/-- A directory that nothing was asked of yet. -/
def untouchedDocs : MemoryDirectory where
  name := "docs"
  uri := ⟨"memory", "", some "docs", none, false, .segments [""], none, none⟩
  deleted := false
  files := []
  nextGeneration := 0

theorem lists_live_files_docs :
    MemoryDirectory.new "docs" = .ok untouchedDocs ∧
      (after untouchedDocs.name untouchedDocs.uri
        [.create "b.txt" "text/plain", .create "a.txt" "text/plain", .upload 0 "kept", .delete,
          .upload 0 "late", .create "c.txt" "text/plain"]).Listing
        [.create "b.txt" "text/plain", .create "a.txt" "text/plain", .upload 0 "kept", .delete,
          .upload 0 "late", .create "c.txt" "text/plain"] := by
  have hnew : MemoryDirectory.new "docs" = .ok untouchedDocs := by rfl
  exact ⟨hnew, (lists_live_files hnew _).2⟩

example : (after untouchedDocs.name untouchedDocs.uri
    [.create "b.txt" "text/plain", .create "a.txt" "text/plain"]).directory.listFiles =
      .ok ["a.txt", "b.txt"] := by
  decide +kernel

end DirectoryRun

end PlatformLink.Storage
