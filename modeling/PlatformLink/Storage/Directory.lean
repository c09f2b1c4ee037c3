import PlatformLink.Error
import PlatformLink.Web.Url.Parse

/-!
# Directories in memory

A directory holds files by name, in the order of their names. A file is created under a new
generation, so a handle to an earlier file of the name is told apart from the present one: a handle
is current as long as the directory holds its name under its generation.

Operations on a handle first check that it is current and then act. Both steps are definitions of
their own, because other callers may come between them.
-/

namespace PlatformLink.Storage

open Web (Url)

/-- A file that a directory holds. -/
structure FileEntry where
  name : String
  generation : Nat
  content : String
  deriving Repr, DecidableEq

structure FileHandle where
  name : String
  uri : Url
  contentType : String
  generation : Nat
  deriving Repr, DecidableEq

/-- Puts a file in its place by name, instead of one that had the name. -/
def insertEntry (e : FileEntry) : List FileEntry → List FileEntry
  | [] => [e]
  | f :: rest =>
    if e.name < f.name then e :: f :: rest
    else if e.name = f.name then e :: rest
    else f :: insertEntry e rest

theorem insertEntry_nil (e : FileEntry) : insertEntry e [] = [e] := rfl

structure MemoryDirectory where
  name : String
  uri : Url
  deleted : Bool
  files : List FileEntry
  nextGeneration : Nat
  deriving Repr, DecidableEq

namespace MemoryDirectory

def new (name : String) : Outcome MemoryDirectory := do
  let name ← (Validation.entityName "directory name" name).mapError LinkError.invalid
  let uri ← (Url.parse ("memory://" ++ name ++ "/")).mapError fun fault =>
    LinkError.validation (.directoryNotAddressable name fault)
  return ⟨name, uri, false, [], 0⟩

def ensureExists (d : MemoryDirectory) : Outcome Unit :=
  if d.deleted then .error (.notFound (.directory d.name)) else .ok ()

/-- Deletes the directory with all its files. -/
def delete (d : MemoryDirectory) : Outcome Unit × MemoryDirectory :=
  match d.ensureExists with
  | .error e => (.error e, d)
  | .ok () => (.ok (), { d with deleted := true, files := [] })

/-- The handle that a file to be created gets. -/
def newHandle (d : MemoryDirectory) (name contentType : String) : Outcome FileHandle := do
  let name ← (Validation.entityName "file name" name).mapError LinkError.invalid
  let contentType ← (Validation.notBlank "content type" contentType).mapError LinkError.invalid
  let uri ← (d.uri.join name).mapError fun fault =>
    LinkError.storage d.name (.fileNotAddressable name fault) none
  return ⟨name, uri, contentType, d.nextGeneration⟩

/-- Creates an empty file, instead of one that had the name. -/
def createFile (d : MemoryDirectory) (name contentType : String) :
    Outcome FileHandle × MemoryDirectory :=
  match d.newHandle name contentType, d.ensureExists with
  | .error e, _ => (.error e, d)
  | .ok _, .error e => (.error e, d)
  | .ok h, .ok () =>
    (.ok h, { d with
      files := insertEntry ⟨h.name, h.generation, ""⟩ d.files
      nextGeneration := d.nextGeneration + 1 })

/-- The names of the files, in their order. -/
def listFiles (d : MemoryDirectory) : Outcome (List String) := do
  d.ensureExists
  return d.files.map (·.name)

/-- The file of a handle, as long as the handle is current. -/
def entry? (d : MemoryDirectory) (h : FileHandle) : Option FileEntry :=
  d.files.find? fun e => e.name == h.name && e.generation == h.generation

def ensureCurrent (d : MemoryDirectory) (h : FileHandle) : Outcome Unit :=
  if (d.entry? h).isSome then .ok () else .error (.notFound (.file h.uri.text))

/-- Removes the file of a handle, if the directory still holds it. -/
def removeEntry (d : MemoryDirectory) (h : FileHandle) : MemoryDirectory :=
  { d with files := d.files.filter fun e => !(e.name == h.name && e.generation == h.generation) }

/-- Sets the content of the file of a handle, if the directory still holds it. -/
def writeEntry (d : MemoryDirectory) (h : FileHandle) (content : String) : MemoryDirectory :=
  { d with files := d.files.map fun e =>
      if e.name == h.name && e.generation == h.generation then { e with content := content }
      else e }

/-- Deletes a file through its handle. -/
def deleteFile (d : MemoryDirectory) (h : FileHandle) : Outcome Unit × MemoryDirectory :=
  match d.ensureCurrent h with
  | .error e => (.error e, d)
  | .ok () => (.ok (), d.removeEntry h)

/-- Replaces the content of a file. -/
def upload (d : MemoryDirectory) (h : FileHandle) (content : String) :
    Outcome Unit × MemoryDirectory :=
  match d.ensureCurrent h with
  | .error e => (.error e, d)
  | .ok () => (.ok (), d.writeEntry h content)

def download (d : MemoryDirectory) (h : FileHandle) : Outcome String :=
  match d.entry? h with
  | some e => .ok e.content
  | none => .error (.notFound (.file h.uri.text))

end MemoryDirectory

end PlatformLink.Storage
