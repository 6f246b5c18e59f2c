import LayoutTree.Layout.TextFormat

/-!
# Files that files ask for

Reading a file reads the files with children that its node lines name, each with one more location
among those being read. One level of this is `readWith`, where `read` stands for the reading of the
files below; `readFile` is its fixed point (`readFile_eq`).

A node line asks for the files that it names one after the other, up to the first that is refused
(`askedByLine`). What a file says depends on no other file with children (`readWith_congr`), and a
refused file costs the line that asks for it (`readLine_of_refused`).

* `readToDepth_eq`: as many levels as the store has files are enough, whatever stands below them.
-/

namespace LayoutTree.TextFormat

open LayoutTree.Text LayoutTree.Layout

/-! ## One level of reading -/

section Levels

variable (store : FileStore) (normalize : String → Except String String)
  (read : List Location → FilePath → List Char → Log × List Descriptor)

/-- What including a file yields while the files at `active` are being read. -/
def inclusionOf (active : List Location) (p : FilePath) : Except LineFault Inclusion :=
  match store.read p with
  | .error reason =>
    if FileStore.saysAbsent reason then .ok .absent else .error (.path reason p)
  | .ok (loc, bytes) =>
    if active.contains loc then .error (.recursiveInclude p)
    else
      match Source.decode p bytes with
      | .error e => .ok (.faulty e)
      | .ok s => .ok (.nodes (read (loc :: active) p s).1 (read (loc :: active) p s).2)

/-- What the lines of a file depend on. -/
def surroundings (active : List Location) : Surroundings :=
  ⟨store, normalize, inclusionOf store read active⟩

/-- The forest of a file, and what reading it logged, where `read` reads the files below. -/
def readWith (active : List Location) (file : FilePath) (content : List Char) :
    Log × List Descriptor :=
  let result := readLines (surroundings store normalize read active) file 0 .start (lines content)
  (result.2, result.1.outline.forest)

/-- Reading a file reads the files below in the same way. -/
theorem readFile_eq (active : List Location) (file : FilePath) (content : List Char) :
    readFile store normalize active file content =
      readWith store normalize (readFile store normalize) active file content := by
  obtain ⟨children, hread, hchildren⟩ : ∃ children,
      readFile store normalize active file content =
        (let result := readLines ⟨store, normalize, children⟩ file 0 .start (lines content)
        (result.2, result.1.outline.forest)) ∧
      children = inclusionOf store (readFile store normalize) active := by
    rw [readFile]
    refine ⟨_, rfl, funext fun p => ?_⟩
    rw [inclusionOf]
    split
    · next h => simp [h]
    · next loc bytes h =>
      by_cases hactive : loc ∈ active
      · simp [h, hactive]
      · cases hs : Source.decode p bytes with
        | error e => simp [h, hactive, hs]
        | ok s => simp [h, hactive, hs]
  rw [hread, hchildren]
  rfl

/-- Including a file that is being read is refused. -/
theorem inclusionOf_of_mem {active : List Location} {p : FilePath} {loc : Location}
    {bytes : ByteArray} (h : store.read p = .ok (loc, bytes)) (hactive : loc ∈ active) :
    inclusionOf store read active p = .error (.recursiveInclude p) := by
  simp only [inclusionOf, h, List.contains_iff_mem, hactive, if_true]

/-- Including a file depends on what that file says, and on nothing if it is being read. -/
theorem inclusionOf_congr {read' : List Location → FilePath → List Char → Log × List Descriptor}
    {active : List Location} {p : FilePath}
    (h : ∀ loc bytes s, store.read p = .ok (loc, bytes) → loc ∉ active →
      Source.decode p bytes = .ok s → read (loc :: active) p s = read' (loc :: active) p s) :
    inclusionOf store read active p = inclusionOf store read' active p := by
  unfold inclusionOf
  cases hr : store.read p with
  | error reason => rfl
  | ok result =>
    obtain ⟨loc, bytes⟩ := result
    by_cases hactive : loc ∈ active
    · simp only [List.contains_iff_mem, hactive, if_true]
    · cases hs : Source.decode p bytes with
      | error e => simp only [hs]
      | ok s => simp only [hs, h loc bytes s hr hactive hs]

end Levels

/-! ## The files that lines ask for -/

/-- The files that includes ask for, up to the first that is refused. -/
def askedFrom (read : FilePath → Except LineFault Inclusion) (file : FilePath) :
    List Property → List FilePath
  | [] => []
  | entry :: rest =>
    match includePath? file entry.value with
    | none => askedFrom read file rest
    | some p =>
      p :: match read p with
        | .error _ => []
        | .ok _ => askedFrom read file rest

/-- The properties by which a node line names files with children, its own and those that it takes
from other files. -/
def includesOf (store : FileStore) (file : FilePath) (state : Reading) (text : List Char) :
    List Property :=
  match nodeOf file state (splitFragments (· == ';') text) with
  | .error _ => []
  | .ok d =>
    let (includes, d) := d.take propertiesFileNames
    match loadProperties store file d includes with
    | (_, .error _) => []
    | (_, .ok d) => (takeIncludes d).1

/-- The files with children that a line names, whether or not it comes to ask for them. -/
def namedByLine (env : Surroundings) (file : FilePath) (state : Reading) (line : List Char) :
    List FilePath :=
  match Line.classify state.defaultsType.isSome (trim line) with
  | .node text =>
    (includesOf env.store file state text).filterMap fun entry => includePath? file entry.value
  | _ => []

/-- The files with children that a line asks for. -/
def askedByLine (env : Surroundings) (file : FilePath) (state : Reading) (line : List Char) :
    List FilePath :=
  match Line.classify state.defaultsType.isSome (trim line) with
  | .node text =>
    if state.skippedAt.any (· < indentation line) then []
    else askedFrom env.children file (includesOf env.store file state text)
  | _ => []

/-- The files with children that lines ask for. -/
def askedByLines (env : Surroundings) (file : FilePath) (state : Reading) :
    List (List Char) → List FilePath
  | [] => []
  | line :: rest =>
    askedByLine env file state line ++
      askedByLines env file (readLine env file state line).state rest

section Asked

variable {read read' : FilePath → Except LineFault Inclusion} {file : FilePath}

theorem loadChildren_congr {es : List Property} (h : ∀ p ∈ askedFrom read file es, read p = read' p)
    (d : Descriptor) : loadChildren read file d es = loadChildren read' file d es := by
  induction es generalizing d with
  | nil => rfl
  | cons entry rest ih =>
    rw [askedFrom] at h
    rw [loadChildren, loadChildren]
    cases hpath : includePath? file entry.value with
    | none => exact ih (by simpa only [hpath] using h) d
    | some p =>
      simp only [hpath] at h
      dsimp only
      rw [← h p List.mem_cons_self]
      cases hp : read p with
      | error fault => rfl
      | ok inclusion =>
        have hrest : ∀ q ∈ askedFrom read file rest, read q = read' q := fun q hq =>
          h q (List.mem_cons_of_mem _ (by simpa only [hp] using hq))
        cases inclusion with
        | absent => simp only [ih hrest]
        | faulty e => simp only [ih hrest]
        | nodes log forest => simp only [ih hrest]

/-- A file that is asked for and refused is the last one. -/
theorem loadChildren_of_refused {es : List Property} {p : FilePath} {fault : LineFault}
    (hp : p ∈ askedFrom read file es) (hrefused : read p = .error fault) (d : Descriptor) :
    (loadChildren read file d es).2 = .error fault := by
  induction es generalizing d with
  | nil => simp [askedFrom] at hp
  | cons entry rest ih =>
    rw [askedFrom] at hp
    rw [loadChildren]
    cases hpath : includePath? file entry.value with
    | none => exact ih (by simpa only [hpath] using hp) d
    | some q =>
      simp only [hpath, List.mem_cons] at hp
      rcases hp with rfl | hp
      · simp only [hrefused]
      · cases hq : read q with
        | error other => simp [hq] at hp
        | ok inclusion =>
          simp only [hq] at hp ⊢
          cases inclusion with
          | absent => exact ih hp d
          | faulty e => exact ih hp d
          | nodes log forest => exact ih hp _

/-- The first file that is named is asked for. -/
theorem mem_askedFrom {es : List Property} {p : FilePath} {more : List FilePath}
    (h : es.filterMap (fun entry => includePath? file entry.value) = p :: more) :
    p ∈ askedFrom read file es := by
  induction es with
  | nil => cases h
  | cons entry rest ih =>
    rw [askedFrom]
    rw [List.filterMap_cons] at h
    cases hpath : includePath? file entry.value with
    | none =>
      rw [hpath] at h
      exact ih h
    | some q =>
      rw [hpath] at h
      rw [← (List.cons.inj h).1]
      exact List.mem_cons_self

/-- If a file that is named would be refused, one that is asked for is. -/
theorem exists_refused {es : List Property} {p : FilePath} {fault : LineFault}
    (hp : p ∈ es.filterMap fun entry => includePath? file entry.value)
    (hrefused : read p = .error fault) :
    ∃ q ∈ askedFrom read file es, ∃ other, read q = .error other := by
  induction es with
  | nil => cases hp
  | cons entry rest ih =>
    rw [askedFrom]
    cases hpath : includePath? file entry.value with
    | none => exact ih (by simpa [hpath] using hp)
    | some q =>
      cases hq : read q with
      | error other => exact ⟨q, List.mem_cons_self, other, hq⟩
      | ok inclusion =>
        have hne : p ≠ q := by
          rintro rfl
          cases hq.symm.trans hrefused
        obtain ⟨r, hr, other, hother⟩ := ih (by simpa [hpath, hne] using hp)
        exact ⟨r, by simpa [hq] using Or.inr hr, other, hother⟩

end Asked

section Lines

variable {env : Surroundings} {file : FilePath} {state : Reading}
  {children : FilePath → Except LineFault Inclusion}

theorem readNode_congr {text : List Char}
    (h : ∀ p ∈ askedFrom env.children file (includesOf env.store file state text),
      env.children p = children p) :
    readNode env file state text = readNode { env with children } file state text := by
  unfold readNode
  unfold includesOf at h
  cases hnode : nodeOf file state (splitFragments (· == ';') text) with
  | error fault => rfl
  | ok d =>
    simp only [hnode] at h
    rcases hloaded : loadProperties env.store file (d.take propertiesFileNames).2
      (d.take propertiesFileNames).1 with ⟨log, fault | d'⟩
    · simp only [hloaded]
    · simp only [hloaded] at h
      simp only [hloaded, loadChildren_congr h]

theorem readNode_of_refused {text : List Char} {p : FilePath} {fault : LineFault}
    (hp : p ∈ askedFrom env.children file (includesOf env.store file state text))
    (hrefused : env.children p = .error fault) :
    (readNode env file state text).2 = .error fault := by
  unfold readNode
  unfold includesOf at hp
  cases hnode : nodeOf file state (splitFragments (· == ';') text) with
  | error other => simp [hnode, askedFrom] at hp
  | ok d =>
    simp only [hnode] at hp
    rcases hloaded : loadProperties env.store file (d.take propertiesFileNames).2
      (d.take propertiesFileNames).1 with ⟨log, other | d'⟩
    · simp [hloaded, askedFrom] at hp
    · simp only [hloaded] at hp
      have hchildren := loadChildren_of_refused hp hrefused (takeIncludes d').2
      rcases hmore : loadChildren env.children file (takeIncludes d').2 (takeIncludes d').1
        with ⟨more, result⟩
      rw [hmore] at hchildren
      subst hchildren
      simp only [hloaded, hmore]

/-- What a line does depends on no other files with children than those that it asks for. -/
theorem readLine_congr {line : List Char}
    (h : ∀ p ∈ askedByLine env file state line, env.children p = children p) :
    readLine env file state line = readLine { env with children } file state line := by
  unfold readLine
  unfold askedByLine at h
  generalize Line.classify state.defaultsType.isSome (trim line) = kind at h ⊢
  cases kind with
  | ignored => rfl
  | group name => rfl
  | defaultsOf type => rfl
  | default entry => rfl
  | node text =>
    dsimp only at h ⊢
    rw [readNodeLine, readNodeLine]
    by_cases hs : state.skippedAt.any (· < indentation line) = true
    · rw [if_pos hs, if_pos hs]
    · rw [if_neg hs] at h ⊢
      rw [if_neg hs, readNode_congr h]

theorem readLines_congr {ls : List (List Char)}
    (h : ∀ p ∈ askedByLines env file state ls, env.children p = children p) (number : Nat) :
    readLines env file number state ls = readLines { env with children } file number state ls := by
  induction ls generalizing number state with
  | nil => rfl
  | cons line rest ih =>
    have hline := readLine_congr fun p hp => h p (List.mem_append_left _ hp)
    rw [readLines, readLines, ← hline, ih fun p hp => h p (List.mem_append_right _ hp)]

/-- **A refused file costs the line that asks for it**, which is a node line and nested below no
skipped one. -/
theorem readLine_of_refused {line : List Char} {p : FilePath} {fault : LineFault}
    (hp : p ∈ askedByLine env file state line) (hrefused : env.children p = .error fault) :
    state.skippedAt.any (· < indentation line) = false ∧
      ∃ log, readLine env file state line =
        ⟨{ state with skippedAt := some (indentation line) }, log, some fault⟩ := by
  rw [askedByLine] at hp
  split at hp
  · next text hc =>
    split at hp
    · cases hp
    · next hs =>
      have hs := eq_false_of_ne_true hs
      have hnode := readNode_of_refused hp hrefused
      rcases hr : readNode env file state text with ⟨log, result⟩
      rw [hr] at hnode
      subst hnode
      refine ⟨hs, log, ?_⟩
      simp only [readLine, hc, readNodeLine, hs, Bool.false_eq_true, if_false, hr]
  · cases hp

/-- A line that nothing skips asks for the first file that it names. -/
theorem mem_askedByLine {line : List Char} {p : FilePath} {more : List FilePath}
    (hs : state.skippedAt.any (· < indentation line) = false)
    (h : namedByLine env file state line = p :: more) : p ∈ askedByLine env file state line := by
  rw [namedByLine] at h
  rw [askedByLine]
  split at h
  · rw [if_neg (ne_true_of_eq_false hs)]
    exact mem_askedFrom h
  · cases h

/-- A line that names a file that would be refused has a fault. -/
theorem fault_of_named {line : List Char} {p : FilePath} {fault : LineFault}
    (hp : p ∈ namedByLine env file state line) (hrefused : env.children p = .error fault) :
    (readLine env file state line).fault ≠ none := by
  rw [namedByLine] at hp
  split at hp
  · next text hkind =>
    by_cases hs : state.skippedAt.any (· < indentation line) = true
    · simp [readLine, hkind, readNodeLine, hs]
    · obtain ⟨q, hq, other, hother⟩ := exists_refused hp hrefused
      have hasked : q ∈ askedByLine env file state line := by
        rw [askedByLine, hkind]
        simpa only [if_neg hs] using hq
      obtain ⟨-, log, hline⟩ := readLine_of_refused hasked hother
      simp [hline]
  · cases hp

end Lines

/-! ## The depth of files within files -/

section Depth

variable (store : FileStore) (normalize : String → Except String String)
  (beyond : List Location → FilePath → List Char → Log × List Descriptor)

/-- Reading a file depends on no other files than those that its lines ask for. -/
theorem readWith_congr {read read' : List Location → FilePath → List Char → Log × List Descriptor}
    {active : List Location} {file : FilePath} {content : List Char}
    (h : ∀ p ∈ askedByLines (surroundings store normalize read active) file .start (lines content),
      ∀ loc bytes s, store.read p = .ok (loc, bytes) → loc ∉ active →
        Source.decode p bytes = .ok s → read (loc :: active) p s = read' (loc :: active) p s) :
    readWith store normalize read active file content =
      readWith store normalize read' active file content := by
  have hlines : readLines (surroundings store normalize read active) file 0 .start (lines content) =
      readLines (surroundings store normalize read' active) file 0 .start (lines content) :=
    readLines_congr (fun p hp => inclusionOf_congr store read (h p hp)) 0
  rw [readWith, readWith, hlines]

/-- The forest of a file with a given number of levels of files below it; `beyond` reads the files
on the level after these. -/
def readToDepth : Nat → List Location → FilePath → List Char → Log × List Descriptor
  | 0 => readWith store normalize beyond
  | depth + 1 => readWith store normalize (readToDepth depth)

/-- **Files below files end**: as many levels as there are files not being read are enough,
whatever would be read on the level after these. -/
theorem readToDepth_eq {depth : Nat} {active : List Location} (h : remaining store active ≤ depth)
    (file : FilePath) (content : List Char) :
    readToDepth store normalize beyond depth active file content =
      readFile store normalize active file content := by
  induction depth generalizing active file content with
  | zero =>
    rw [readToDepth, readFile_eq]
    refine readWith_congr store normalize fun p _ loc bytes s hr hactive _ => ?_
    have := remaining_lt (FileStore.mem_locations_of_read hr) hactive
    omega
  | succ depth ih =>
    rw [readToDepth, readFile_eq]
    refine readWith_congr store normalize fun p _ loc bytes s hr hactive _ => ?_
    have := remaining_lt (FileStore.mem_locations_of_read hr) hactive
    exact ih (by omega) p s

theorem remaining_le (active : List Location) :
    remaining store active ≤ store.locations.length :=
  List.length_filter_le _ _

end Depth

end LayoutTree.TextFormat
