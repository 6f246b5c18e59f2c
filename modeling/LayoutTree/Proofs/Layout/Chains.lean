import LayoutTree.Proofs.Layout.Recovery

/-!
# Chains of files

While a file is read, a file that one of its lines asks for may be read, and so on: a chain of
readings (`Nested`). The locations of the files of a chain are those being read (`Nested.active_eq`),
so they are all different and the chain ends.

* `parse_nested`: reading ends whatever the files include, the files of a chain are all different,
  and asking for one of them again costs the asking line and the node lines nested below it.
-/

namespace LayoutTree

open LayoutTree.Text LayoutTree.Layout

namespace FileStore

variable {store : FileStore} {p q : FilePath}

theorem locate_of_read {loc : Location} {bytes : ByteArray} (h : store.read p = .ok (loc, bytes)) :
    store.locate p = .ok loc := by
  rw [read] at h
  cases hl : store.locate p with
  | error e => simp [hl] at h
  | ok found =>
    simp only [hl] at h
    split at h
    · simp only [Except.ok.injEq, Prod.mk.injEq] at h
      rw [h.1]
    · cases h

/-- Paths that lead to one location are read as the same file. -/
theorem read_congr (h : store.locate p = store.locate q) : store.read p = store.read q := by
  rw [read, read, h]

end FileStore

namespace TextFormat

/-! ## Readings of files -/

/-- The reading of a file: the locations of the files being read, its own first, and its path and
bytes. -/
structure Visit where
  active : List Location
  file : FilePath
  bytes : ByteArray

variable (store : FileStore) (normalize : String → Except String String)

/-- What the lines of the file depend on. -/
def Visit.surroundings (v : Visit) : Surroundings :=
  TextFormat.surroundings store normalize (readFile store normalize) v.active

/-- Reading the file of `v` reads the file of `w`: a line asks for it, it is there, and it is not
being read. -/
def Visits (v w : Visit) : Prop :=
  ∃ content, Source.decode v.file v.bytes = .ok content ∧
    ∃ p ∈ askedByLines (v.surroundings store normalize) v.file .start (lines content),
      ∃ loc bytes, store.read p = .ok (loc, bytes) ∧ loc ∉ v.active ∧
        w = ⟨loc :: v.active, p, bytes⟩

/-- The chains of readings that a root file starts: the innermost reading and those around it. -/
inductive Nested (file : FilePath) : Visit → List Visit → Prop
  | root {loc : Location} {bytes : ByteArray} (h : store.read file = .ok (loc, bytes)) :
      Nested file ⟨[loc], file, bytes⟩ []
  | visit {v w : Visit} {outer : List Visit} (h : Nested file v outer)
      (hw : Visits store normalize v w) : Nested file w (v :: outer)

/-- The forest of a root file with a given number of levels of files below it; `beyond` reads the
files on the level after these. -/
def parseToDepth (beyond : List Location → FilePath → List Char → Log × List Descriptor)
    (depth : Nat) (file : FilePath) : Log × Except ParseFailure (List Descriptor) :=
  match Source.read store file with
  | .error e => ([], .error e)
  | .ok (loc, s) =>
    let (log, forest) := readToDepth store normalize beyond depth [loc] file s
    (log, .ok forest)

variable {store normalize}

/-- What a file says depends only on what the files say that its reading reads. -/
theorem readWith_of_visits {v : Visit} {content : List Char}
    (hcontent : Source.decode v.file v.bytes = .ok content)
    {read : List Location → FilePath → List Char → Log × List Descriptor}
    (h : ∀ w s, Visits store normalize v w → Source.decode w.file w.bytes = .ok s →
      readFile store normalize w.active w.file s = read w.active w.file s) :
    readWith store normalize read v.active v.file content =
      readFile store normalize v.active v.file content := by
  rw [readFile_eq]
  refine (readWith_congr store normalize fun p hp loc bytes s hr hactive hs => ?_).symm
  exact h ⟨loc :: v.active, p, bytes⟩ s ⟨content, hcontent, p, hp, loc, bytes, hr, hactive, rfl⟩ hs

/-- As many levels as there are files are enough for a root file. -/
theorem parseToDepth_eq (beyond : List Location → FilePath → List Char → Log × List Descriptor)
    {depth : Nat} (h : store.locations.length ≤ depth) (file : FilePath) :
    parseToDepth store normalize beyond depth file = parse store normalize file := by
  have hdepth : ∀ loc, remaining store [loc] ≤ depth := fun loc =>
    Nat.le_trans (remaining_le store _) h
  rw [parseToDepth, parse]
  cases Source.read store file with
  | error e => rfl
  | ok result => simp only [readToDepth_eq store normalize beyond (hdepth _)]

section Chain

variable {file : FilePath} {v : Visit} {outer : List Visit}

/-- The locations of a chain are those being read by its innermost reading. -/
theorem Nested.active_eq (h : Nested store normalize file v outer) :
    ((v :: outer).map fun w => store.locate w.file) = v.active.map Except.ok := by
  induction h with
  | root h => simp [FileStore.locate_of_read h]
  | visit h hw ih =>
    obtain ⟨content, -, p, -, loc, bytes, hr, -, rfl⟩ := hw
    rw [List.map_cons, ih, List.map_cons, FileStore.locate_of_read hr]

theorem Nested.nodup_active (h : Nested store normalize file v outer) : v.active.Nodup := by
  induction h with
  | root h => simp
  | visit h hw ih =>
    obtain ⟨content, -, p, -, loc, bytes, -, hactive, rfl⟩ := hw
    exact List.nodup_cons.2 ⟨hactive, ih⟩

/-- The files of a chain are files of the store. -/
theorem Nested.exists_read (h : Nested store normalize file v outer) :
    ∀ w ∈ v :: outer, ∃ loc, store.read w.file = .ok (loc, w.bytes) := by
  induction h with
  | root h =>
    intro w hw
    obtain rfl := List.mem_singleton.1 hw
    exact ⟨_, h⟩
  | visit h hw ih =>
    obtain ⟨content, -, p, -, loc, bytes, hr, -, rfl⟩ := hw
    intro w hmem
    rcases List.mem_cons.1 hmem with rfl | hmem
    · exact ⟨loc, hr⟩
    · exact ih w hmem

/-- A file of the chain is refused. -/
theorem Nested.refused (h : Nested store normalize file v outer) {p : FilePath}
    (hp : ∃ w ∈ v :: outer, store.locate p = store.locate w.file) :
    (v.surroundings store normalize).children p = .error (.recursiveInclude p) := by
  obtain ⟨w, hw, hlocate⟩ := hp
  obtain ⟨loc, hr⟩ := h.exists_read w hw
  have hmem : (Except.ok loc : Except FileError Location) ∈ v.active.map Except.ok := by
    rw [← h.active_eq, ← FileStore.locate_of_read hr]
    exact List.mem_map_of_mem hw
  obtain ⟨found, hfound, heq⟩ := List.mem_map.1 hmem
  obtain rfl := Except.ok.inj heq
  exact inclusionOf_of_mem store _ ((FileStore.read_congr hlocate).trans hr) hfound

end Chain

/-- The line after `before` is skipped because it includes `p` recursively: the log says so, and the
forest of the file is what it would be without this line and the node lines nested below it. -/
structure Visit.SkipsInclude (store : FileStore) (normalize : String → Except String String)
    (v : Visit) (content : List Char) (before : List (List Char)) (line : List Char)
    (rest : List (List Char)) (p : FilePath) : Prop where
  fault : (readLine (v.surroundings store normalize) v.file
    (after (v.surroundings store normalize) v.file .start before) line).fault =
      some (.recursiveInclude p)
  logged : warning ((LineFault.recursiveInclude p).report v.file before.length) ∈
    (readFile store normalize v.active v.file content).1
  cost : (readFile store normalize v.active v.file content).2 =
    (readFile store normalize v.active v.file (unlines (before ++
      withoutNested (v.surroundings store normalize) v.file (indentation line)
        (after (v.surroundings store normalize) v.file .start before) rest))).2

/-- A line that asks for a file of the chain is skipped. -/
theorem Nested.skipsInclude {file : FilePath} {v : Visit} {outer : List Visit}
    (h : Nested store normalize file v outer) {content : List Char} {before : List (List Char)}
    {line : List Char} {rest : List (List Char)} (hlines : lines content = before ++ line :: rest)
    {p : FilePath} (hp : ∃ w ∈ v :: outer, store.locate p = store.locate w.file)
    (hasked : p ∈ askedByLine (v.surroundings store normalize) v.file
      (after (v.surroundings store normalize) v.file .start before) line) :
    v.SkipsInclude store normalize content before line rest p := by
  obtain ⟨hs, log, hline⟩ := readLine_of_refused hasked (h.refused hp)
  have hfault := congrArg Effect.fault hline
  have hbelow : ∀ below ⊆ rest, lines (unlines (before ++ below)) = before ++ below := by
    intro below hsubset
    refine lines_unlines fun other hother => no_break_of_mem_lines (s := content) ?_
    rw [hlines]
    rcases List.mem_append.1 hother with hother | hother
    · exact List.mem_append_left _ hother
    · exact List.mem_append_right _ (List.mem_cons_of_mem _ (hsubset hother))
  refine ⟨hfault, ?_, ?_⟩
  · have hmem := warning_mem_logOf (v.surroundings store normalize) v.file hfault rest 0
    rw [Nat.zero_add, ← hlines] at hmem
    rw [readFile_eq_after]
    exact hmem
  · rw [readFile_eq_after, readFile_eq_after, hlines, hbelow _ (withoutNested_subset _ _ _ _ _)]
    exact congrArg Outline.forest (outline_after_of_fault hs (congrArg Effect.state hline))

/-- **Files may include one another.** Reading a root file ends: as many levels as there are files
are enough, whatever stands beyond. In every chain of readings, which are those that the forest
depends on, the files are all different. A line that names a file of the chain has a fault, and when
it comes to ask for that file, it is skipped as a recursive include, at no further cost than the node
lines nested below it. -/
theorem parse_nested (store : FileStore) (normalize : String → Except String String)
    (file : FilePath) :
    (∀ beyond depth, store.locations.length ≤ depth →
      parseToDepth store normalize beyond depth file = parse store normalize file) ∧
    ∀ v outer, Nested store normalize file v outer →
      ((v :: outer).map fun w => store.locate w.file).Nodup ∧
      ∀ content, Source.decode v.file v.bytes = .ok content →
        (∀ read, (∀ w s, Visits store normalize v w → Source.decode w.file w.bytes = .ok s →
            readFile store normalize w.active w.file s = read w.active w.file s) →
          readWith store normalize read v.active v.file content =
            readFile store normalize v.active v.file content) ∧
        ∀ before line rest p, lines content = before ++ line :: rest →
          (∃ w ∈ v :: outer, store.locate p = store.locate w.file) →
          let env := v.surroundings store normalize
          let state := after env v.file .start before
          (p ∈ namedByLine env v.file state line → (readLine env v.file state line).fault ≠ none) ∧
            (p ∈ askedByLine env v.file state line →
              v.SkipsInclude store normalize content before line rest p) := by
  refine ⟨fun beyond depth h => parseToDepth_eq beyond h file, fun v outer h => ⟨?_, ?_⟩⟩
  · rw [h.active_eq]
    exact List.pairwise_map.2 (h.nodup_active.imp fun hne heq => hne (Except.ok.inj heq))
  · intro content hcontent
    refine ⟨fun read hread => readWith_of_visits hcontent hread, ?_⟩
    intro before line rest p hlines hp env state
    exact ⟨fun hnamed => fault_of_named hnamed (h.refused hp), h.skipsInclude hlines hp⟩

/-- Two files that include each other, the one by a path through another directory. -/
def circleStore : FileStore where
  entries := [
    (["a.txt"], .file "Panel;Children=b.txt".toUTF8),
    (["b.txt"], .file "Box;Children=c/../a.txt\n  Inner\nOther".toUTF8),
    (["c"], .directory)]
  workingDirectory := []

/-- The reading of `a.txt` as the root file. -/
def circleRoot : Visit := ⟨[["a.txt"]], .ofString "a.txt", "Panel;Children=b.txt".toUTF8⟩

/-- The reading of `b.txt` for the line of `a.txt`. -/
def circleVisit : Visit :=
  ⟨[["b.txt"], ["a.txt"]], .ofString "b.txt", "Box;Children=c/../a.txt\n  Inner\nOther".toUTF8⟩

theorem parse_nested_circleStore :
    Nested circleStore .ok (.ofString "a.txt") circleVisit [circleRoot] ∧
      circleVisit.SkipsInclude circleStore .ok "Box;Children=c/../a.txt\n  Inner\nOther".toList []
        "Box;Children=c/../a.txt".toList ["  Inner".toList, "Other".toList]
        (.ofString "c/../a.txt") := by
  have hroot : Nested circleStore .ok (.ofString "a.txt") circleRoot [] := .root (by rfl)
  have hvisits : Visits circleStore .ok circleRoot circleVisit := by
    refine ⟨_, Source.decode_toUTF8 _ "Panel;Children=b.txt", .ofString "b.txt", ?_, _, _, by rfl,
      by decide, rfl⟩
    have hnamed : namedByLine (circleRoot.surroundings circleStore .ok) circleRoot.file .start
      "Panel;Children=b.txt".toList = [.ofString "b.txt"] := by rfl
    exact List.mem_append_left _ (mem_askedByLine rfl hnamed)
  have hnested := hroot.visit hvisits
  have hdecode := Source.decode_toUTF8 circleVisit.file
    "Box;Children=c/../a.txt\n  Inner\nOther"
  have hlines := ((parse_nested circleStore .ok (.ofString "a.txt")).2 _ _ hnested).2 _ hdecode
  have hnamed : namedByLine (circleVisit.surroundings circleStore .ok) circleVisit.file .start
    "Box;Children=c/../a.txt".toList = [.ofString "c/../a.txt"] := by rfl
  refine ⟨hnested, ?_⟩
  exact (hlines.2 [] "Box;Children=c/../a.txt".toList _ _ (by rfl)
    ⟨_, List.mem_cons_of_mem _ List.mem_cons_self, by rfl⟩).2 (mem_askedByLine rfl hnamed)

end TextFormat

end LayoutTree
