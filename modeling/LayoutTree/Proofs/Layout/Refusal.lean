import LayoutTree.Proofs.Layout.Precedence
import LayoutTree.Proofs.Layout.Undocumented

/-!
# Why a node line is skipped

A line that describes a node is skipped because of a file that it names, or not at all. Its files
with properties come first, in order, and then its files with children: the first of them that is
refused gives the reason (`readNode_eq_error_iff`). A file that is not there is not refused. A path
that is too long is, and so are a file with properties that is not UTF-8 and a file with children
that is being read.

* `readNode_eq_error_iff`: what a line is skipped for.
* `exists_readNode_eq_ok_iff`: when it is read.
-/

namespace LayoutTree.TextFormat

open LayoutTree.Text LayoutTree.Layout

/-! ## Files that are refused -/

/-- The paths that properties name. -/
def namedPaths (file : FilePath) (es : List Property) : List FilePath :=
  es.filterMap fun entry => includePath? file entry.value

/-- Why a file with properties is refused, if it is. -/
def propertiesFault? (store : FileStore) (p : FilePath) : Option LineFault :=
  match store.read p with
  | .error reason => if FileStore.saysAbsent reason then none else some (.path reason p)
  | .ok (_, bytes) =>
    match Source.decode p bytes with
    | .error e => some (.source e)
    | .ok _ => none

/-- Why a file with children is refused, if it is. -/
def childrenFault? (read : FilePath → Except LineFault Inclusion) (p : FilePath) :
    Option LineFault :=
  match read p with
  | .error fault => some fault
  | .ok _ => none

/-- Why a line that describes a node is skipped, if it is: the reason for which the first of its
files is refused that is. -/
def filesFault? (env : Surroundings) (file : FilePath) (state : Reading) (text : List Char) :
    Option LineFault :=
  ((namedPaths file (propertiesFiles text)).findSome? (propertiesFault? env.store)).or
    ((namedPaths file (includesOf env.store file state text)).findSome?
      (childrenFault? env.children))

theorem namedPaths_cons (file : FilePath) (entry : Property) (rest : List Property) :
    namedPaths file (entry :: rest) =
      (includePath? file entry.value).toList ++ namedPaths file rest := by
  rw [namedPaths, List.filterMap_cons]
  cases includePath? file entry.value <;> rfl

/-- A file with properties is refused if its path is too long or its bytes are not UTF-8. -/
theorem propertiesFault?_eq_some_iff {store : FileStore} {p : FilePath} {fault : LineFault} :
    propertiesFault? store p = some fault ↔
      store.read p = .error .nameTooLong ∧ fault = .path .nameTooLong p ∨
        ∃ loc bytes, store.read p = .ok (loc, bytes) ∧ Source.decode? bytes = none ∧
          fault = .source (Source.faultOf p .notUtf8) := by
  rw [propertiesFault?]
  cases hread : store.read p with
  | error reason => cases reason <;> simp [FileStore.saysAbsent, eq_comm]
  | ok found =>
    obtain ⟨loc, bytes⟩ := found
    dsimp only
    rw [Source.decode]
    cases hs : Source.decode? bytes with
    | some s => simp [hs]
    | none =>
      refine ⟨fun h => .inr ⟨loc, bytes, rfl, hs, (Option.some.inj h).symm⟩, ?_⟩
      rintro (⟨hfound, -⟩ | ⟨_, _, -, -, rfl⟩)
      · cases hfound
      · rfl

theorem propertiesFault?_eq_none_iff {store : FileStore} {p : FilePath} :
    propertiesFault? store p = none ↔ store.read p ≠ .error .nameTooLong ∧
      ∀ loc bytes, store.read p = .ok (loc, bytes) → Source.decode? bytes ≠ none := by
  rw [Option.eq_none_iff_forall_ne_some]
  simp only [Ne, propertiesFault?_eq_some_iff]
  constructor
  · exact fun h => ⟨fun hlong => h _ (.inl ⟨hlong, rfl⟩),
      fun loc bytes hread hs => h _ (.inr ⟨loc, bytes, hread, hs, rfl⟩)⟩
  · rintro ⟨hlong, htext⟩ _ (⟨hread, -⟩ | ⟨loc, bytes, hread, hs, -⟩)
    · exact hlong hread
    · exact htext loc bytes hread hs

/-- A file with children is refused if its path is too long or it is being read. -/
theorem childrenFault?_eq_some_iff {store : FileStore}
    {read : List Location → FilePath → List Char → Log × List Descriptor} {active : List Location}
    {p : FilePath} {fault : LineFault} :
    childrenFault? (inclusionOf store read active) p = some fault ↔
      store.read p = .error .nameTooLong ∧ fault = .path .nameTooLong p ∨
        ∃ loc bytes, store.read p = .ok (loc, bytes) ∧ loc ∈ active ∧
          fault = .recursiveInclude p := by
  rw [childrenFault?, inclusionOf]
  cases hread : store.read p with
  | error reason => cases reason <;> simp [FileStore.saysAbsent, eq_comm]
  | ok found =>
    obtain ⟨loc, bytes⟩ := found
    by_cases hactive : loc ∈ active
    · simp [hactive, eq_comm]
    · cases hs : Source.decode p bytes <;> simp [hactive, hs]

theorem childrenFault?_eq_none_iff {store : FileStore}
    {read : List Location → FilePath → List Char → Log × List Descriptor} {active : List Location}
    {p : FilePath} : childrenFault? (inclusionOf store read active) p = none ↔
      store.read p ≠ .error .nameTooLong ∧
        ∀ loc bytes, store.read p = .ok (loc, bytes) → loc ∉ active := by
  rw [Option.eq_none_iff_forall_ne_some]
  simp only [Ne, childrenFault?_eq_some_iff]
  constructor
  · exact fun h => ⟨fun hlong => h _ (.inl ⟨hlong, rfl⟩),
      fun loc bytes hread hactive => h _ (.inr ⟨loc, bytes, hread, hactive, rfl⟩)⟩
  · rintro ⟨hlong, hnone⟩ _ (⟨hread, -⟩ | ⟨loc, bytes, hread, hactive, -⟩)
    · exact hlong hread
    · exact hnone loc bytes hread hactive

/-! ## The first file that is refused -/

theorem loadProperties_eq_error_iff {store : FileStore} {file : FilePath} {es : List Property}
    {fault : LineFault} (d : Descriptor) : (loadProperties store file d es).2 = .error fault ↔
      (namedPaths file es).findSome? (propertiesFault? store) = some fault := by
  induction es generalizing d with
  | nil => simp [loadProperties, namedPaths]
  | cons entry rest ih =>
    rw [loadProperties, namedPaths_cons]
    cases includePath? file entry.value with
    | none => exact ih d
    | some p =>
      rw [Option.toList_some, List.singleton_append, List.findSome?_cons, propertiesFault?]
      dsimp only
      cases store.read p with
      | error reason =>
        dsimp only
        by_cases habsent : FileStore.saysAbsent reason = true
        · rw [if_pos habsent, if_pos habsent]
          exact ih d
        · simp [if_neg habsent]
      | ok found =>
        obtain ⟨loc, bytes⟩ := found
        dsimp only
        cases Source.decode p bytes with
        | error e => simp
        | ok s => exact ih _

theorem loadChildren_eq_error_iff {read : FilePath → Except LineFault Inclusion} {file : FilePath}
    {es : List Property} {fault : LineFault} (d : Descriptor) :
    (loadChildren read file d es).2 = .error fault ↔
      (namedPaths file es).findSome? (childrenFault? read) = some fault := by
  induction es generalizing d with
  | nil => simp [loadChildren, namedPaths]
  | cons entry rest ih =>
    rw [namedPaths_cons]
    cases hpath : includePath? file entry.value with
    | none =>
      rw [loadChildren, hpath]
      exact ih d
    | some p =>
      rw [Option.toList_some, List.singleton_append, List.findSome?_cons, childrenFault?]
      cases hread : read p with
      | error fault => simp [loadChildren, hpath, hread]
      | ok inclusion =>
        rw [loadChildren_cons hpath hread]
        exact ih _

section Lines

variable {env : Surroundings} {file : FilePath} {state : Reading}

/-- **A line that describes a node** is skipped for the first of its files that is refused. -/
theorem readNode_eq_error_iff {text : List Char} {plain : Descriptor}
    (hnode : nodeOf file state (splitFragments (· == ';') text) = .ok plain) {fault : LineFault} :
    (readNode env file state text).2 = .error fault ↔
      filesFault? env file state text = some fault := by
  have htake : (plain.take propertiesFileNames).1 = propertiesFiles text := by
    rw [take_eq, (nodeOf_splitFragments hnode).2]
    rfl
  rw [readNode, filesFault?, includesOf, hnode, ← htake]
  dsimp only
  have hproperties := fun fault => @loadProperties_eq_error_iff env.store file
    (plain.take propertiesFileNames).1 fault (plain.take propertiesFileNames).2
  generalize loadProperties env.store file (plain.take propertiesFileNames).2
    (plain.take propertiesFileNames).1 = loading at hproperties ⊢
  obtain ⟨log, other | loaded⟩ := loading
  · rw [(hproperties other).1 rfl]
    simp
  · have hnone : (namedPaths file (plain.take propertiesFileNames).1).findSome?
        (propertiesFault? env.store) = none :=
      Option.eq_none_iff_forall_ne_some.2 fun other hother => by
        simpa using (hproperties other).2 hother
    rw [hnone, Option.none_or]
    dsimp only
    rw [← loadChildren_eq_error_iff (takeIncludes loaded).2]
    rcases loadChildren env.children file (takeIncludes loaded).2 (takeIncludes loaded).1
      with ⟨more, other | full⟩ <;> simp

theorem exists_readNode_eq_ok_iff {text : List Char} {plain : Descriptor}
    (hnode : nodeOf file state (splitFragments (· == ';') text) = .ok plain) :
    (∃ d, (readNode env file state text).2 = .ok d) ↔ filesFault? env file state text = none := by
  rw [Option.eq_none_iff_forall_ne_some]
  simp only [Ne, ← readNode_eq_error_iff hnode]
  cases (readNode env file state text).2 with
  | ok d => simp
  | error fault => simp

end Lines

/-- Bytes that are no text. -/
def brokenBytes : ByteArray := ⟨#[0xFF]⟩

/-- A file with a panel and a label below it, and a file with properties that is no text. -/
def brokenPropertiesStore : FileStore where
  entries := [
    (["a.txt"], .file "Panel;PropsFile=p.props\n  Label".toUTF8),
    (["p.props"], .file brokenBytes)]
  workingDirectory := []

end LayoutTree.TextFormat
