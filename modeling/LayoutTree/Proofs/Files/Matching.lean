import LayoutTree.Files.Store
import Mathlib.Data.List.Forall2

/-!
# Stores that match

Two stores match if they have the same directories, and files at the same locations whose bytes are
related in a given way (`FileStore.Matches`). A path leads to the same place in both
(`Matches.locate_eq`), and what is read there is related (`Matches.read`).
-/

namespace LayoutTree

variable {R : ByteArray → ByteArray → Prop}

/-- Two entries are directories, or files whose bytes are related. -/
inductive FileEntry.Matches (R : ByteArray → ByteArray → Prop) : FileEntry → FileEntry → Prop
  | directory : FileEntry.Matches R .directory .directory
  | file {bytes bytes' : ByteArray} (h : R bytes bytes') :
      FileEntry.Matches R (.file bytes) (.file bytes')

namespace FileStore

/-- Two stores have the same working directory, and at the same locations entries that match. -/
structure Matches (R : ByteArray → ByteArray → Prop) (store store' : FileStore) : Prop where
  entries : List.Forall₂ (fun e e' => e.1 = e'.1 ∧ e.2.Matches R e'.2) store.entries store'.entries
  workingDirectory : store.workingDirectory = store'.workingDirectory

namespace Matches

theorem mono {S : ByteArray → ByteArray → Prop} {store store' : FileStore}
    (h : store.Matches R store') (hRS : ∀ bytes bytes', R bytes bytes' → S bytes bytes') :
    store.Matches S store' where
  entries := by
    refine h.entries.imp ?_
    rintro ⟨loc, entry⟩ ⟨loc', entry'⟩ ⟨hloc, hentry⟩
    refine ⟨hloc, ?_⟩
    cases hentry with
    | directory => exact .directory
    | file hbytes => exact .file (hRS _ _ hbytes)
  workingDirectory := h.workingDirectory

variable {store store' : FileStore} (h : store.Matches R store')
include h

theorem isDirectoryAt_eq (loc : Location) : store.isDirectoryAt loc = store'.isDirectoryAt loc := by
  have hentries := h.entries
  rw [isDirectoryAt, isDirectoryAt, h.workingDirectory]
  congr 1
  generalize store.entries = es, store'.entries = es' at hentries
  induction hentries with
  | nil => rfl
  | @cons e e' rest rest' hentry _ ih =>
    obtain ⟨other, entry⟩ := e
    obtain ⟨other', entry'⟩ := e'
    obtain ⟨rfl, hmatches⟩ := hentry
    rw [List.any_cons, List.any_cons, ih]
    cases hmatches with
    | directory => rfl
    | file => rfl

theorem files : List.Forall₂ (fun f f' => f.1 = f'.1 ∧ R f.2 f'.2) store.files store'.files := by
  have hentries := h.entries
  rw [FileStore.files, FileStore.files]
  generalize store.entries = es, store'.entries = es' at hentries
  induction hentries with
  | nil => exact .nil
  | @cons e e' rest rest' hentry _ ih =>
    obtain ⟨loc, entry⟩ := e
    obtain ⟨loc', entry'⟩ := e'
    obtain ⟨rfl, hmatches⟩ := hentry
    cases hmatches with
    | directory => exact ih
    | file hbytes => exact .cons ⟨rfl, hbytes⟩ ih

theorem bytesAt? (loc : Location) : Option.Rel R (store.bytesAt? loc) (store'.bytesAt? loc) := by
  have hfiles := h.files
  rw [FileStore.bytesAt?, FileStore.bytesAt?]
  generalize store.files = fs, store'.files = fs' at hfiles
  induction hfiles with
  | nil => exact .none
  | @cons f f' rest rest' hfile _ ih =>
    rw [List.lookup_cons, List.lookup_cons, ← hfile.1]
    split
    · exact .some hfile.2
    · exact ih

theorem follow_eq (loc : Location) (names : List String) :
    store.follow loc names = store'.follow loc names := by
  induction names generalizing loc with
  | nil => rfl
  | cons name rest ih =>
    have hsome : ∀ next, (store.bytesAt? next).isSome = (store'.bytesAt? next).isSome := by
      intro next
      have hbytes := h.bytesAt? next
      generalize store.bytesAt? next = found, store'.bytesAt? next = found' at hbytes
      cases hbytes with
      | some => rfl
      | none => rfl
    simp only [follow, h.isDirectoryAt_eq, hsome, ih]

/-- A path leads to the same place. -/
theorem locate_eq (p : FilePath) : store.locate p = store'.locate p := by
  simp only [locate, h.workingDirectory, h.follow_eq]

/-- A path leads nowhere for the same reason, or to files with related bytes. -/
theorem read (p : FilePath) :
    (∃ e, store.read p = .error e ∧ store'.read p = .error e) ∨
      ∃ loc bytes bytes', store.read p = .ok (loc, bytes) ∧ store'.read p = .ok (loc, bytes') ∧
        R bytes bytes' := by
  simp only [FileStore.read, ← h.locate_eq]
  cases store.locate p with
  | error e => exact .inl ⟨e, rfl, rfl⟩
  | ok loc =>
    have hbytes := h.bytesAt? loc
    dsimp only
    generalize store.bytesAt? loc = found, store'.bytesAt? loc = found' at hbytes
    cases hbytes with
    | none => exact .inl ⟨_, rfl, rfl⟩
    | some hbytes => exact .inr ⟨loc, _, _, rfl, rfl, hbytes⟩

end Matches

end FileStore

end LayoutTree
