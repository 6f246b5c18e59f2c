import LayoutTree.Proofs.Files.Matching
import LayoutTree.Proofs.Layout.Inclusion

/-!
# Lines that say nothing

Blank lines and comments are silent (`isSilent`): a reading passes over them, in files with nodes
(`readLine_of_silent`) as in files with properties (`addMissing_filter`). So what comes out of a
file depends on the lines that say something, its own and those of the files that it takes
properties and children from. Two readings whose files say the same go through the same states, line
by line (`readLine_alike`), and log the same apart from the numbers of lines (`Renumbered`).

* `parse_alike`: from stores in which all files say the same, a root file has the same forest.
-/

namespace LayoutTree

/-- Two log entries differ in nothing but the number of a line that is skipped. -/
inductive LogEntry.Renumbered : LogEntry → LogEntry → Prop
  | refl (e : LogEntry) : Renumbered e e
  | skipped (file : FilePath) (fault : TextFormat.LineFault) (m n : Nat) :
      Renumbered (TextFormat.warning (fault.report file m))
        (TextFormat.warning (fault.report file n))

/-- Two logs differ in nothing but the numbers of lines that are skipped. -/
def Log.Renumbered (log log' : Log) : Prop := List.Forall₂ LogEntry.Renumbered log log'

namespace Log.Renumbered

theorem refl (log : Log) : log.Renumbered log :=
  List.forall₂_same.2 fun e _ => .refl e

theorem append {a b a' b' : Log} (ha : a.Renumbered a') (hb : b.Renumbered b') :
    Log.Renumbered (a ++ b) (a' ++ b') :=
  List.rel_append ha hb

end Log.Renumbered

namespace TextFormat

open LayoutTree.Text LayoutTree.Layout

/-! ## Silent lines -/

/-- Whether a line says nothing: it is blank or a comment. -/
def isSilent (line : List Char) : Bool :=
  (trim line).isEmpty || (trim line).head? == some '#'

/-- The lines of a text that say something. -/
def spoken (s : List Char) : List (List Char) :=
  (lines s).filter fun line => !isSilent line

theorem classify_eq_ignored_iff {inDefaults : Bool} {line : List Char} :
    Line.classify inDefaults (trim line) = .ignored ↔ isSilent line = true := by
  rw [Line.classify, isSilent]
  split
  · next h => exact iff_of_true rfl h
  · next h =>
    refine iff_of_false ?_ h
    split
    · exact fun heq => by cases heq
    · split
      · exact fun heq => by cases heq
      · split <;> exact fun heq => by cases heq

theorem readLine_of_silent (env : Surroundings) (file : FilePath) (state : Reading)
    {line : List Char} (h : isSilent line = true) :
    readLine env file state line = ⟨state, [], none⟩ := by
  rw [readLine, classify_eq_ignored_iff.2 h]

/-- Silent lines before others change nothing but the numbers of these. -/
theorem readLines_append_of_silent (env : Surroundings) (file : FilePath) (number : Nat)
    (state : Reading) {ls : List (List Char)} (h : ∀ line ∈ ls, isSilent line = true)
    (rest : List (List Char)) : readLines env file number state (ls ++ rest) =
      readLines env file (number + ls.length) state rest := by
  induction ls generalizing number with
  | nil => rfl
  | cons line ls ih =>
    rw [List.cons_append, readLines, readLine_of_silent env file state (h line List.mem_cons_self),
      ih (number + 1) fun other hother => h other (List.mem_cons_of_mem _ hother), List.length_cons,
      Nat.add_right_comm, Nat.add_assoc]
    rfl

/-- Silent lines assign no properties. -/
theorem addMissing_filter (d : Descriptor) (ls : List (List Char)) :
    addMissing d (ls.filter fun line => !isSilent line) = addMissing d ls := by
  rw [addMissing, addMissing, List.foldl_filter]
  congr 1
  funext d line
  by_cases h : isSilent line = true
  · rw [if_neg (by simp [h])]
    exact (if_pos h).symm
  · rw [if_pos (by simp [h])]

/-! ## Files that say the same -/

/-- Neither of two files is a text, or the same lines of both say something. -/
def SaysSame (bytes bytes' : ByteArray) : Prop :=
  (Source.decode? bytes).map spoken = (Source.decode? bytes').map spoken

theorem SaysSame.decode {bytes bytes' : ByteArray} (h : SaysSame bytes bytes') (p : FilePath) :
    (∃ e, Source.decode p bytes = .error e ∧ Source.decode p bytes' = .error e) ∨
      ∃ s s', Source.decode p bytes = .ok s ∧ Source.decode p bytes' = .ok s' ∧
        spoken s = spoken s' := by
  rw [SaysSame] at h
  rw [Source.decode, Source.decode]
  cases hs : Source.decode? bytes with
  | none =>
    cases hs' : Source.decode? bytes' with
    | none => exact .inl ⟨_, rfl, rfl⟩
    | some s' => simp [hs, hs'] at h
  | some s =>
    cases hs' : Source.decode? bytes' with
    | none => simp [hs, hs'] at h
    | some s' => exact .inr ⟨s, s', rfl, rfl, by simpa [hs, hs'] using h⟩

/-- Two inclusions are refused for the same reason, or they come to the same apart from the numbers
in the log. -/
inductive Inclusion.Renumbered :
    Except LineFault Inclusion → Except LineFault Inclusion → Prop
  | refused (fault : LineFault) : Renumbered (.error fault) (.error fault)
  | absent : Renumbered (.ok .absent) (.ok .absent)
  | faulty (e : SourceError) : Renumbered (.ok (.faulty e)) (.ok (.faulty e))
  | nodes {log log' : Log} (h : log.Renumbered log') (forest : List Descriptor) :
      Renumbered (.ok (.nodes log forest)) (.ok (.nodes log' forest))

/-- Two readings take place among files that say the same. -/
structure Surroundings.Alike (env env' : Surroundings) : Prop where
  store : env.store.Matches SaysSame env'.store
  normalize : env.normalize = env'.normalize
  children : ∀ p, Inclusion.Renumbered (env.children p) (env'.children p)

/-- Files that say the same assign the same properties. -/
theorem loadProperties_alike {store store' : FileStore} (h : store.Matches SaysSame store')
    (file : FilePath) (d : Descriptor) (es : List Property) :
    loadProperties store file d es = loadProperties store' file d es := by
  induction es generalizing d with
  | nil => rfl
  | cons entry rest ih =>
    rw [loadProperties, loadProperties]
    cases includePath? file entry.value with
    | none => exact ih d
    | some p =>
      dsimp only
      rcases h.read p with ⟨e, hread, hread'⟩ | ⟨loc, bytes, bytes', hread, hread', hsame⟩
      · rw [hread, hread']
        dsimp only
        rw [ih]
      · rw [hread, hread']
        dsimp only
        rcases hsame.decode p with ⟨e, hs, hs'⟩ | ⟨s, s', hs, hs', hlines⟩
        · rw [hs, hs']
        · rw [hs, hs']
          dsimp only
          rw [ih, ← addMissing_filter d (lines s), ← addMissing_filter d (lines s')]
          exact congrArg (fun ls => loadProperties store' file (addMissing d ls) rest) hlines

theorem loadChildren_alike {read read' : FilePath → Except LineFault Inclusion}
    (h : ∀ p, Inclusion.Renumbered (read p) (read' p)) (file : FilePath) (d : Descriptor)
    (es : List Property) :
    (loadChildren read file d es).2 = (loadChildren read' file d es).2 ∧
      (loadChildren read file d es).1.Renumbered (loadChildren read' file d es).1 := by
  induction es generalizing d with
  | nil => exact ⟨rfl, .nil⟩
  | cons entry rest ih =>
    rw [loadChildren, loadChildren]
    cases includePath? file entry.value with
    | none => exact ih d
    | some p =>
      dsimp only
      have hp := h p
      generalize read p = result, read' p = result' at hp
      cases hp with
      | refused fault => exact ⟨rfl, .nil⟩
      | absent => exact ⟨(ih d).1, .cons (.refl _) (ih d).2⟩
      | faulty e => exact ⟨(ih d).1, .cons (.refl _) (ih d).2⟩
      | nodes hlog forest => exact ⟨(ih _).1, hlog.append (ih _).2⟩

section Lines

variable {env env' : Surroundings} (h : env.Alike env') (file : FilePath) (state : Reading)
include h

theorem readNode_alike (text : List Char) :
    (readNode env file state text).2 = (readNode env' file state text).2 ∧
      (readNode env file state text).1.Renumbered (readNode env' file state text).1 := by
  rw [readNode, readNode]
  cases nodeOf file state (splitFragments (· == ';') text) with
  | error fault => exact ⟨rfl, .nil⟩
  | ok plain =>
    dsimp only
    rw [loadProperties_alike h.store]
    rcases loadProperties env'.store file (plain.take propertiesFileNames).2
      (plain.take propertiesFileNames).1 with ⟨log, fault | loaded⟩
    · exact ⟨rfl, .refl log⟩
    · dsimp only
      have hchildren := loadChildren_alike h.children file (takeIncludes loaded).2
        (takeIncludes loaded).1
      generalize loadChildren env.children file (takeIncludes loaded).2 (takeIncludes loaded).1 =
        result, loadChildren env'.children file (takeIncludes loaded).2 (takeIncludes loaded).1 =
        result' at hchildren
      obtain ⟨more, outcome⟩ := result
      obtain ⟨more', outcome'⟩ := result'
      obtain ⟨rfl, hmore⟩ := hchildren
      cases outcome with
      | error fault => exact ⟨rfl, (Log.Renumbered.refl log).append hmore⟩
      | ok full => exact ⟨rfl, (Log.Renumbered.refl log).append hmore⟩

/-- **A line does the same** among files that say the same. -/
theorem readLine_alike (line : List Char) :
    (readLine env file state line).state = (readLine env' file state line).state ∧
      (readLine env file state line).fault = (readLine env' file state line).fault ∧
      (readLine env file state line).log.Renumbered (readLine env' file state line).log := by
  rw [readLine, readLine, h.normalize]
  cases Line.classify state.defaultsType.isSome (trim line) with
  | node text =>
    dsimp only
    rw [readNodeLine, readNodeLine]
    split
    · exact ⟨rfl, rfl, .nil⟩
    · have hnode := readNode_alike h file state text
      generalize readNode env file state text = result, readNode env' file state text = result'
        at hnode
      obtain ⟨log, outcome⟩ := result
      obtain ⟨log', outcome'⟩ := result'
      obtain ⟨rfl, hlog⟩ := hnode
      cases outcome with
      | error fault => exact ⟨rfl, rfl, hlog⟩
      | ok d => exact ⟨rfl, rfl, hlog⟩
  | _ => exact ⟨rfl, rfl, .refl _⟩

/-- **Lines that say the same do the same**, wherever silent lines stand between them. -/
theorem readLines_alike {ls ls' : List (List Char)}
    (hls : (ls.filter fun line => !isSilent line) = ls'.filter fun line => !isSilent line)
    (m n : Nat) :
    (readLines env file m state ls).1 = (readLines env' file n state ls').1 ∧
      (readLines env file m state ls).2.Renumbered (readLines env' file n state ls').2 := by
  induction ls generalizing m n state ls' with
  | nil =>
    have hsilent : ∀ line ∈ ls', isSilent line = true := by
      simpa using List.filter_eq_nil_iff.1 hls.symm
    have hrest := readLines_append_of_silent env' file n state hsilent []
    rw [List.append_nil] at hrest
    rw [hrest]
    exact ⟨rfl, .nil⟩
  | cons line rest ih =>
    cases hline : isSilent line with
    | true =>
      rw [List.filter_cons_of_neg (by simp [hline])] at hls
      have hsilent : ∀ other ∈ [line], isSilent other = true := by simpa using hline
      have hskip := readLines_append_of_silent env file m state hsilent rest
      rw [List.singleton_append] at hskip
      rw [hskip]
      exact ih state hls _ n
    | false =>
      rw [List.filter_cons_of_pos (by simp [hline])] at hls
      obtain ⟨silent, rest', rfl, hsilent, -, hrest⟩ := List.filter_eq_cons_iff.1 hls.symm
      rw [readLines_append_of_silent env' file n state (by simpa using hsilent), readLines,
        readLines]
      obtain ⟨hstate, hfault, hlog⟩ := readLine_alike h file state line
      have hmore := ih (readLine env file state line).state hrest.symm (m + 1)
        (n + silent.length + 1)
      rw [← hstate]
      refine ⟨hmore.1, (hlog.append ?_).append hmore.2⟩
      rw [← hfault]
      cases (readLine env file state line).fault with
      | none => exact .nil
      | some fault => exact .cons (.skipped file fault _ _) .nil

end Lines

/-! ## Readings that say the same -/

section Readings

variable {store store' : FileStore} (h : store.Matches SaysSame store')
  (normalize : String → Except String String)
include h

theorem inclusionOf_alike {active : List Location}
    {read read' : List Location → FilePath → List Char → Log × List Descriptor}
    (hread : ∀ p loc bytes, store.read p = .ok (loc, bytes) → loc ∉ active → ∀ s s',
      spoken s = spoken s' → (read (loc :: active) p s).2 = (read' (loc :: active) p s').2 ∧
        (read (loc :: active) p s).1.Renumbered (read' (loc :: active) p s').1) (p : FilePath) :
    Inclusion.Renumbered (inclusionOf store read active p) (inclusionOf store' read' active p) := by
  rw [inclusionOf, inclusionOf]
  rcases h.read p with ⟨reason, hfile, hfile'⟩ | ⟨loc, bytes, bytes', hfile, hfile', hsame⟩
  · rw [hfile, hfile']
    dsimp only
    split
    · exact .absent
    · exact .refused _
  · rw [hfile, hfile']
    dsimp only
    by_cases hactive : active.contains loc = true
    · rw [if_pos hactive, if_pos hactive]
      exact .refused _
    · rw [if_neg hactive, if_neg hactive]
      rcases hsame.decode p with ⟨e, hs, hs'⟩ | ⟨s, s', hs, hs', hlines⟩
      · rw [hs, hs']
        exact .faulty e
      · rw [hs, hs']
        obtain ⟨hforest, hlog⟩ := hread p loc bytes hfile (by simpa using hactive) s s' hlines
        dsimp only
        rw [hforest]
        exact .nodes hlog _

/-- **A file that says the same** has the same forest. -/
theorem readFile_alike (active : List Location) (file : FilePath) {s s' : List Char}
    (hs : spoken s = spoken s') :
    (readFile store normalize active file s).2 = (readFile store' normalize active file s').2 ∧
      (readFile store normalize active file s).1.Renumbered
        (readFile store' normalize active file s').1 := by
  -- The recursion is that of reading: below a file, fewer files are left that are not being read.
  induction hn : remaining store active using Nat.strongRecOn generalizing active file s s' with
  | ind n ih =>
    have halike : (surroundings store normalize (readFile store normalize) active).Alike
        (surroundings store' normalize (readFile store' normalize) active) :=
      ⟨h, rfl, inclusionOf_alike h fun p loc bytes hread hactive t t' ht =>
        ih _ (hn ▸ remaining_lt (FileStore.mem_locations_of_read hread) hactive) _ p ht rfl⟩
    obtain ⟨hstate, hlog⟩ := readLines_alike halike file .start hs 0 0
    rw [readFile_eq, readFile_eq, readWith, readWith]
    exact ⟨congrArg (fun state : Reading => state.outline.forest) hstate, hlog⟩

/-- **What a layout says is in the lines that say something.** If all files of two stores say the
same, a root file has the same forest in both, or the same failure, and the logs differ in nothing
but the numbers of lines that are skipped. -/
theorem parse_alike (file : FilePath) :
    (parse store normalize file).2 = (parse store' normalize file).2 ∧
      (parse store normalize file).1.Renumbered (parse store' normalize file).1 := by
  rw [parse, parse, Source.read, Source.read]
  rcases h.read file with ⟨reason, hfile, hfile'⟩ | ⟨loc, bytes, bytes', hfile, hfile', hsame⟩
  · rw [hfile, hfile']
    exact ⟨rfl, .nil⟩
  · rw [hfile, hfile']
    rcases hsame.decode file with ⟨e, hs, hs'⟩ | ⟨s, s', hs, hs', hlines⟩
    · dsimp only
      rw [hs, hs']
      exact ⟨rfl, .nil⟩
    · dsimp only
      rw [hs, hs']
      obtain ⟨hforest, hlog⟩ := readFile_alike h normalize [loc] file hlines
      exact ⟨congrArg Except.ok hforest, hlog⟩

end Readings

end TextFormat

end LayoutTree
