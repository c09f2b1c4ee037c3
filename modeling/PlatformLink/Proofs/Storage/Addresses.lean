import PlatformLink.Proofs.Storage.Listing

/-!
# Addresses of files

The address of a directory is made of its name alone, and that of a file of both names, each as it
is given. So every accepted name has an address, no call fails for want of one, and addresses tell
files apart.
-/

namespace PlatformLink.Storage

/-! ## Addresses as texts -/

theorem text_directoryUrl (name : String) :
    (directoryUrl name).text = "memory://" ++ name ++ "/" := by
  refine String.toList_injective ?_
  simp [directoryUrl, Web.Url.text, Web.Url.authorityText, Web.Url.pathText,
    Web.segmentsText_singleton]

theorem text_fileUrl (directory file : String) :
    (fileUrl directory file).text = "memory://" ++ directory ++ "/" ++ file := by
  refine String.toList_injective ?_
  simp [fileUrl, directoryUrl, Web.Url.text, Web.Url.authorityText, Web.Url.pathText,
    Web.segmentsText_singleton]

/-- The slash between two names tells where the first one ends. -/
theorem fileUrl_text_inj {d d' f f' : String} (hd : IsName d) (hd' : IsName d') (hf : IsName f)
    (hf' : IsName f') (h : (fileUrl d f).text = (fileUrl d' f').text) : d = d' ∧ f = f' := by
  have hchars : d.toList ++ '/' :: f.toList = d'.toList ++ '/' :: f'.toList := by
    have htexts := congrArg String.toList h
    simpa [text_fileUrl] using htexts
  have hslash : Validation.isEntityNameChar '/' = false := by decide
  have hsplit := congrArg (Text.splitOn '/') hchars
  rw [Text.splitOn_append_cons, Text.splitOn_append_cons,
    Text.splitOn_of_not_mem (hd.not_mem hslash), Text.splitOn_of_not_mem (hd'.not_mem hslash),
    Text.splitOn_of_not_mem (hf.not_mem hslash), Text.splitOn_of_not_mem (hf'.not_mem hslash)]
    at hsplit
  simp only [List.cons_append, List.nil_append, List.cons.injEq, and_true] at hsplit
  exact ⟨String.toList_injective hsplit.1, String.toList_injective hsplit.2⟩

/-! ## Creating -/

namespace MemoryDirectory

/-- Only its name keeps a directory from being made. -/
theorem new_eq_error {name : String} {e : LinkError} (h : new name = .error e) :
    ∃ fault, Validation.entityName "directory name" name = .error fault ∧ e = .invalid fault := by
  cases hname : Validation.entityName "directory name" name with
  | error fault =>
    rw [new, hname] at h
    exact ⟨fault, rfl, (Except.error.inj h).symm⟩
  | ok name' =>
    obtain ⟨rfl, -⟩ := Validation.entityName_eq_ok hname
    rw [new_of_entityName hname] at h
    cases h

variable {d : MemoryDirectory} {directory name contentType : String}

theorem newHandle_eq_ok {h : FileHandle} (hh : d.newHandle name contentType = .ok h) :
    Validation.entityName "file name" name = .ok name ∧
      Validation.notBlank "content type" contentType = .ok contentType := by
  obtain ⟨name', hname, hh⟩ := bind_eq_ok_iff.mp hh
  obtain ⟨contentType', htype, -⟩ := bind_eq_ok_iff.mp hh
  have hname := mapError_eq_ok_iff.mp hname
  have htype := mapError_eq_ok_iff.mp htype
  obtain ⟨rfl, -⟩ := Validation.entityName_eq_ok hname
  obtain ⟨-, rfl⟩ := (Validation.ensure_eq_ok_iff _ _ _ _).mp htype
  exact ⟨hname, htype⟩

/-- What was created has an accepted name, and the address that the name gives. -/
theorem createFile_eq_ok {h : FileHandle} (huri : d.uri = directoryUrl directory)
    (hh : (d.createFile name contentType).1 = .ok h) :
    IsName h.name ∧ h.uri = fileUrl directory h.name := by
  unfold createFile at hh
  split at hh
  · cases hh
  · cases hh
  next made hmade _ =>
    obtain ⟨hname, htype⟩ := newHandle_eq_ok hmade
    rw [newHandle_eq huri hname htype] at hmade
    rw [← Except.ok.inj hh, ← Except.ok.inj hmade]
    exact ⟨(Validation.entityName_eq_ok hname).2, rfl⟩

/-- Why a file is not created: for its name, for its content type, or because the directory was
deleted. -/
inductive CreationFault (d : MemoryDirectory) (name contentType : String) : LinkError → Prop where
  | name {fault : TextFault} (h : Validation.entityName "file name" name = .error fault) :
      CreationFault d name contentType (.invalid fault)
  | contentType {fault : TextFault}
      (h : Validation.notBlank "content type" contentType = .error fault) :
      CreationFault d name contentType (.invalid fault)
  | deleted (h : d.deleted = true) :
      CreationFault d name contentType (.notFound (.directory d.name))

theorem creationFault_of_createFile (huri : d.uri = directoryUrl directory) {e : LinkError}
    (he : (d.createFile name contentType).1 = .error e) : CreationFault d name contentType e := by
  cases hname : Validation.entityName "file name" name with
  | error fault =>
    have hhandle : d.newHandle name contentType = .error (.invalid fault) := by
      simp only [newHandle, hname, error_mapError, error_bind]
    simp only [createFile, hhandle] at he
    exact Except.error.inj he ▸ .name hname
  | ok name' =>
    obtain ⟨rfl, -⟩ := Validation.entityName_eq_ok hname
    cases htype : Validation.notBlank "content type" contentType with
    | error fault =>
      have hhandle : d.newHandle name' contentType = .error (.invalid fault) := by
        simp only [newHandle, hname, htype, ok_mapError, ok_bind, error_mapError, error_bind]
      simp only [createFile, hhandle] at he
      exact Except.error.inj he ▸ .contentType htype
    | ok contentType' =>
      obtain ⟨-, rfl⟩ := (Validation.ensure_eq_ok_iff _ _ _ _).mp htype
      cases hdeleted : d.deleted with
      | false =>
        rw [createFile_of_there huri (ensureExists_of_not_deleted hdeleted) hname htype] at he
        cases he
      | true =>
        simp only [createFile, newHandle_eq huri hname htype, ensureExists_of_deleted hdeleted]
          at he
        exact Except.error.inj he ▸ .deleted hdeleted

end MemoryDirectory

/-! ## Every run -/

/-- A handle that a directory of this name gives after some calls. -/
def GivenBy (directory : String) (h : FileHandle) : Prop :=
  ∃ d calls name contentType, MemoryDirectory.new directory = .ok d ∧
    ((DirectoryRun.after d.name d.uri calls).directory.createFile name contentType).1 = .ok h

theorem uri_after (directory name : String) (calls : List DirectoryCall) :
    (DirectoryRun.after name (directoryUrl directory) calls).directory.uri =
      directoryUrl directory :=
  ((DirectoryRun.new name (directoryUrl directory)).name_uri_run calls).2

theorem GivenBy.addressed {directory : String} {h : FileHandle} (hgiven : GivenBy directory h) :
    IsName directory ∧ IsName h.name ∧ h.uri = fileUrl directory h.name := by
  obtain ⟨d, calls, name, contentType, hd, hh⟩ := hgiven
  obtain ⟨hname, rfl⟩ := MemoryDirectory.new_eq_ok hd
  exact ⟨(Validation.entityName_eq_ok hname).2,
    MemoryDirectory.createFile_eq_ok (uri_after directory directory calls) hh⟩

/-- What a name is as the name of a directory. -/
structure Addressable (directory : String) : Prop where
  /-- Every accepted name has a directory, whose address holds the name as it is. -/
  made : Validation.entityName "directory name" directory = .ok directory →
    ∃ d, MemoryDirectory.new directory = .ok d ∧ d.uri = directoryUrl directory ∧
      d.uri.text = "memory://" ++ directory ++ "/"
  /-- A directory is refused for its name and not for its address. -/
  refused : ∀ e, MemoryDirectory.new directory = .error e → ∃ fault,
    Validation.entityName "directory name" directory = .error fault ∧ e = .invalid fault
  /-- As long as the directory is there, accepted arguments are enough for a file, whose address
  holds both names as they are. -/
  created : ∀ d calls, MemoryDirectory.new directory = .ok d → .delete ∉ calls →
    ∀ name contentType, Validation.entityName "file name" name = .ok name →
      Validation.notBlank "content type" contentType = .ok contentType →
      ∃ h, ((DirectoryRun.after d.name d.uri calls).directory.createFile name contentType).1 =
          .ok h ∧ h.name = name ∧ h.uri = fileUrl directory name ∧
        h.uri.text = "memory://" ++ directory ++ "/" ++ name
  /-- Whenever a file is refused, it is not for its address. -/
  not_created : ∀ d calls, MemoryDirectory.new directory = .ok d → ∀ name contentType e,
    ((DirectoryRun.after d.name d.uri calls).directory.createFile name contentType).1 = .error e →
      MemoryDirectory.CreationFault (DirectoryRun.after d.name d.uri calls).directory name
        contentType e
  /-- Files of one address have one name, in directories of one name. -/
  apart : ∀ h directory' h', GivenBy directory h → GivenBy directory' h' →
    h.uri.text = h'.uri.text → directory = directory' ∧ h.name = h'.name

/-- Names are addressable, as they are. -/
theorem addresses_every_name (directory : String) : Addressable directory := by
  constructor
  case made =>
    intro hname
    exact ⟨_, MemoryDirectory.new_of_entityName hname, rfl, text_directoryUrl directory⟩
  case refused => exact fun e he => MemoryDirectory.new_eq_error he
  case created =>
    intro d calls hd hcalls name contentType hname htype
    obtain ⟨-, rfl⟩ := MemoryDirectory.new_eq_ok hd
    have hkept : (DirectoryRun.after directory (directoryUrl directory) calls).directory.deleted =
        false := by
      rw [← Bool.not_eq_true, DirectoryRun.after, DirectoryRun.deleted_run]
      simp [DirectoryRun.new, hcalls]
    have hcreated := MemoryDirectory.createFile_of_there (uri_after directory directory calls)
      (MemoryDirectory.ensureExists_of_not_deleted hkept) hname htype
    exact ⟨_, congrArg Prod.fst hcreated, rfl, rfl, text_fileUrl directory name⟩
  case not_created =>
    intro d calls hd name contentType e he
    obtain ⟨-, rfl⟩ := MemoryDirectory.new_eq_ok hd
    exact MemoryDirectory.creationFault_of_createFile (uri_after directory directory calls) he
  case apart =>
    intro h directory' h' hgiven hgiven' htext
    obtain ⟨hdirectory, hname, huri⟩ := hgiven.addressed
    obtain ⟨hdirectory', hname', huri'⟩ := hgiven'.addressed
    rw [huri, huri'] at htext
    exact fileUrl_text_inj hdirectory hdirectory' hname hname' htext

/-- A name that spells a number is no number. -/
example : (MemoryDirectory.new "0x7F.1").toOption.map (·.uri.text) = some "memory://0x7F.1/" := by
  decide +kernel

end PlatformLink.Storage
