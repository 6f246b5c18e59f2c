import LayoutTree.Files.Path
import LayoutTree.Text.Quoted

/-!
# File stores

A file store is a plain value: the files and directories at absolute locations, and the working
directory that relative paths start from. `FileStore.locate` follows a path name by name and says
why it leads nowhere; `FileStore.read` gives the bytes of a file together with its location, which
is one of the store's files (`mem_files_of_read`).
-/

namespace LayoutTree

open LayoutTree.Text

/-- An absolute location: the names from the root directory down. -/
abbrev Location := List String

/-- What stands at a location. -/
inductive FileEntry
  /-- A directory. -/
  | directory
  /-- A file with its bytes. -/
  | file (bytes : ByteArray)

/-- Why a path leads nowhere. -/
inductive FileError
  /-- A name on the way does not exist. -/
  | missing
  /-- Something on the way is a file. -/
  | notDirectory
  /-- A directory stands where a file is wanted. -/
  | isDirectory
  /-- A name, or the whole path, is longer than a file system takes. -/
  | nameTooLong
  /-- The path holds a NUL character. -/
  | embeddedNul
  deriving DecidableEq, Repr

namespace FileError

/-- The reason in words. -/
def reason : FileError → String
  | .missing => "No such file or directory"
  | .notDirectory => "Not a directory"
  | .isDirectory => "Is a directory"
  | .nameTooLong => "File name too long"
  | .embeddedNul => "embedded null byte"

/-- The number of the reason. -/
def number : FileError → Nat
  | .missing => 2
  | .notDirectory => 20
  | .isDirectory => 21
  | .nameTooLong => 36
  | .embeddedNul => 0

/-- The message about a path that leads nowhere. -/
def message (e : FileError) (p : FilePath) : String :=
  match e with
  | .embeddedNul => e.reason
  | _ => "[Errno " ++ toString e.number ++ "] " ++ e.reason ++ ": " ++ quoted p.text

end FileError

/-- Files and directories, and a working directory. -/
structure FileStore where
  /-- What stands where. -/
  entries : List (Location × FileEntry)
  /-- The directory that relative paths start from. -/
  workingDirectory : Location

namespace FileStore

/-- The most bytes in a name. -/
def maxNameBytes : Nat := 255

/-- The most bytes in a path. -/
def maxPathBytes : Nat := 4095

/-- The files of a store with their bytes. -/
def files (store : FileStore) : List (Location × ByteArray) :=
  store.entries.filterMap fun
    | (loc, .file bytes) => some (loc, bytes)
    | _ => none

/-- The locations of the files of a store. -/
def locations (store : FileStore) : List Location :=
  store.files.map (·.1)

/-- Whether a directory stands at a location: it is given, or something stands below it, or it is on
the way to the working directory. -/
def isDirectoryAt (store : FileStore) (loc : Location) : Bool :=
  loc.isPrefixOf store.workingDirectory ||
    store.entries.any fun
      | (other, .directory) => loc.isPrefixOf other
      | (other, .file _) => loc.isPrefixOf other && other ≠ loc

/-- The bytes of the file at a location. -/
def bytesAt? (store : FileStore) (loc : Location) : Option ByteArray :=
  store.files.lookup loc

/-- The location that the names lead to, from a location where something stands. -/
def follow (store : FileStore) (loc : Location) : List String → Except FileError Location
  | [] => .ok loc
  | name :: rest =>
    if !store.isDirectoryAt loc then .error .notDirectory
    else if name = ".." then follow store loc.dropLast rest
    else if maxNameBytes < name.utf8ByteSize then .error .nameTooLong
    else
      let next := loc ++ [name]
      if store.isDirectoryAt next || (store.bytesAt? next).isSome then follow store next rest
      else .error .missing

/-- The location that a path leads to. -/
def locate (store : FileStore) (p : FilePath) : Except FileError Location :=
  if p.text.toList.contains '\x00' then .error .embeddedNul
  else if maxPathBytes < p.text.utf8ByteSize then .error .nameTooLong
  else store.follow (if p.isAbsolute then [] else store.workingDirectory) p.parts

/-- The location and the bytes of the file that a path leads to. -/
def read (store : FileStore) (p : FilePath) : Except FileError (Location × ByteArray) :=
  match store.locate p with
  | .error e => .error e
  | .ok loc =>
    match store.bytesAt? loc with
    | some bytes => .ok (loc, bytes)
    | none => .error .isDirectory

/-- Whether the reason says that nothing of the wanted kind is there; any other reason leaves that
open. -/
def saysAbsent : FileError → Bool
  | .nameTooLong => false
  | _ => true

/-- Whether a path leads to a file. A name that is too long leaves the question open. -/
def isFile (store : FileStore) (p : FilePath) : Except FileError Bool :=
  match store.read p with
  | .ok _ => .ok true
  | .error e => if saysAbsent e then .ok false else .error e

/-- Whether a path leads anywhere. A name that is too long leaves the question open. -/
def leadsAnywhere (store : FileStore) (p : FilePath) : Except FileError Bool :=
  match store.locate p with
  | .ok _ => .ok true
  | .error e => if saysAbsent e then .ok false else .error e

theorem mem_of_lookup_eq_some {α β : Type} [BEq α] [LawfulBEq α] {k : α} {v : β} {l : List (α × β)}
    (h : l.lookup k = some v) : (k, v) ∈ l := by
  induction l with
  | nil => simp at h
  | cons p l ih =>
    obtain ⟨a, b⟩ := p
    simp only [List.lookup_cons] at h
    split at h
    · next hk =>
      have : k = a := by simpa using hk
      simp only [Option.some.injEq] at h
      simp [this, h]
    · exact List.mem_cons_of_mem _ (ih h)

/-- What is read is one of the store's files. -/
theorem mem_files_of_read {store : FileStore} {p : FilePath} {loc : Location} {bytes : ByteArray}
    (h : store.read p = .ok (loc, bytes)) : (loc, bytes) ∈ store.files := by
  simp only [read] at h
  split at h
  · exact absurd h (by simp)
  · split at h
    · next hb =>
      simp only [Except.ok.injEq, Prod.mk.injEq] at h
      obtain ⟨rfl, rfl⟩ := h
      exact mem_of_lookup_eq_some hb
    · exact absurd h (by simp)

/-- The location of what is read is the location of a file. -/
theorem mem_locations_of_read {store : FileStore} {p : FilePath} {loc : Location}
    {bytes : ByteArray} (h : store.read p = .ok (loc, bytes)) : loc ∈ store.locations :=
  List.mem_map.2 ⟨(loc, bytes), mem_files_of_read h, rfl⟩

end FileStore

end LayoutTree
