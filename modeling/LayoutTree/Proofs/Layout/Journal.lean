import LayoutTree.Proofs.Layout.Provenance

/-!
# The skipped lines of a log

The log of a root file reports lines that are skipped, its own and those of the files that are read
below it, and it reports other things. The entries about skipped lines are those of the readings
that a root file starts, each with the file of its reading (`mem_log_iff`): none is lost where a
line that asked for a file is skipped itself, and nothing else looks like one.
-/

namespace LayoutTree

open LayoutTree.Text LayoutTree.Layout

/-- An entry reports a line that is skipped. -/
def LogEntry.ReportsSkip (e : LogEntry) : Prop := "Skipped line: ".toList <+: e.text.toList

namespace TextFormat

/-! ## Entries that report a line -/

theorem reportsSkip_report (file : FilePath) (number : Nat) (fault : LineFault) :
    (warning (fault.report file number)).ReportsSkip := by
  rw [LogEntry.ReportsSkip, warning, LineFault.report, String.toList_append]
  exact List.prefix_append _ _

/-- A text that starts with another character reports no line. -/
theorem not_reportsSkip {start : String} (h : ∃ c ≠ 'S', start.toList.head? = some c)
    (rest : String) : ¬ (warning (start ++ rest)).ReportsSkip := by
  obtain ⟨c, hc, hstart⟩ := h
  obtain ⟨tail, htail⟩ := List.head?_eq_some_iff.1 hstart
  rw [LogEntry.ReportsSkip, warning, String.toList_append, htail]
  exact fun hskip => hc (List.cons_prefix_cons.1 hskip).1.symm

theorem not_reportsSkip_of_loadProperties (store : FileStore) (file : FilePath) (d : Descriptor)
    (es : List Property) {e : LogEntry} (he : e ∈ (loadProperties store file d es).1) :
    ¬ e.ReportsSkip := by
  induction es generalizing d with
  | nil => cases he
  | cons entry rest ih =>
    rw [loadProperties] at he
    split at he
    · exact ih _ he
    · split at he
      · split at he
        · rcases List.mem_cons.1 he with rfl | he
          · exact not_reportsSkip ⟨'P', by decide, by decide⟩ _
          · exact ih _ he
        · cases he
      · split at he
        · cases he
        · exact ih _ he

section Lines

variable {read : FilePath → Except LineFault Inclusion} {env : Surroundings} {file : FilePath}
  {state : Reading} {e : LogEntry} (he : e.ReportsSkip)
include he

/-- The lines that including files reports are those of the files that are asked for. -/
theorem mem_log_loadChildren {es : List Property} (d : Descriptor) :
    e ∈ (loadChildren read file d es).1 ↔
      ∃ p ∈ askedFrom read file es, ∃ log forest, read p = .ok (.nodes log forest) ∧ e ∈ log := by
  induction es generalizing d with
  | nil => simp [loadChildren, askedFrom]
  | cons entry rest ih =>
    rw [loadChildren, askedFrom]
    cases includePath? file entry.value with
    | none => exact ih d
    | some p =>
      cases hread : read p with
      | error fault => simp [hread]
      | ok inclusion =>
        cases inclusion with
        | absent =>
          have hne : e ≠ warning ("Children file not found: " ++ p.text) := fun heq =>
            not_reportsSkip ⟨'C', by decide, by decide⟩ _ (heq ▸ he)
          simp [hread, hne, ih]
        | faulty fault =>
          have hne : e ≠ warning ("Children file skipped: " ++ fault.text) := fun heq =>
            not_reportsSkip ⟨'C', by decide, by decide⟩ _ (heq ▸ he)
          simp [hread, hne, ih]
        | nodes log forest => simp [hread, ih]

theorem mem_log_readNode {text : List Char} : e ∈ (readNode env file state text).1 ↔
    ∃ p ∈ askedFrom env.children file (includesOf env.store file state text), ∃ log forest,
      env.children p = .ok (.nodes log forest) ∧ e ∈ log := by
  rw [readNode, includesOf]
  cases nodeOf file state (splitFragments (· == ';') text) with
  | error fault => simp [askedFrom]
  | ok d =>
    dsimp only
    have hproperties : e ∉ (loadProperties env.store file (d.take propertiesFileNames).2
        (d.take propertiesFileNames).1).1 := fun hmem =>
      not_reportsSkip_of_loadProperties _ _ _ _ hmem he
    generalize loadProperties env.store file (d.take propertiesFileNames).2
      (d.take propertiesFileNames).1 = loading at hproperties ⊢
    obtain ⟨log, fault | loaded⟩ := loading
    · simpa [askedFrom] using hproperties
    · have hlog : e ∉ log := hproperties
      dsimp only
      rw [← mem_log_loadChildren he (takeIncludes loaded).2]
      rcases loadChildren env.children file (takeIncludes loaded).2 (takeIncludes loaded).1
        with ⟨more, fault | full⟩ <;> simp [hlog]

/-- **The lines that a line reports** are those of the files that it asks for. -/
theorem mem_log_readLine {line : List Char} : e ∈ (readLine env file state line).log ↔
    ∃ p ∈ askedByLine env file state line, ∃ log forest,
      env.children p = .ok (.nodes log forest) ∧ e ∈ log := by
  rw [readLine, askedByLine]
  cases Line.classify state.defaultsType.isSome (trim line) with
  | ignored => simp
  | group name =>
    dsimp only
    split <;> simp
  | defaultsOf type =>
    dsimp only
    split <;> simp
  | default entry =>
    dsimp only
    split <;> simp
  | node text =>
    dsimp only
    rw [readNodeLine]
    split
    · simp
    · rw [← mem_log_readNode he]
      rcases readNode env file state text with ⟨log, fault | d⟩ <;> rfl

end Lines

section Lines

variable {env : Surroundings} {file : FilePath}

theorem mem_logOf {number : Nat} {state : Reading} {ls : List (List Char)} {e : LogEntry} :
    e ∈ logOf file number (effects env file state ls) ↔
      ∃ before line rest, ls = before ++ line :: rest ∧
        (e ∈ (readLine env file (after env file state before) line).log ∨
          ∃ fault, (readLine env file (after env file state before) line).fault = some fault ∧
            e = warning (fault.report file (number + before.length))) := by
  induction ls generalizing number state with
  | nil => simp [effects, logOf]
  | cons line rest ih =>
    have hskipped : e ∈ (readLine env file state line).skipped file number ↔
        ∃ fault, (readLine env file state line).fault = some fault ∧
          e = warning (fault.report file (number + 0)) := by
      rw [Effect.skipped]
      cases (readLine env file state line).fault <;> simp
    rw [effects, logOf, List.mem_append, List.mem_append, ih, hskipped, exists_split_cons]
    simp only [List.length_cons, Nat.add_right_comm number 1, ← Nat.add_assoc]
    rfl

theorem mem_askedByLines {state : Reading} {ls : List (List Char)} {p : FilePath} :
    p ∈ askedByLines env file state ls ↔ ∃ before line rest, ls = before ++ line :: rest ∧
      p ∈ askedByLine env file (after env file state before) line := by
  induction ls generalizing state with
  | nil => simp [askedByLines]
  | cons line rest ih =>
    rw [askedByLines, List.mem_append, ih, exists_split_cons]
    rfl

end Lines

/-! ## Entries of readings -/

section Readings

variable (store : FileStore) (normalize : String → Except String String)

/-- Line `number` of the file of `v`, counted from zero, is read in `state`. -/
def Visit.Reads (v : Visit) (number : Nat) (state : Reading) (line : List Char) : Prop :=
  ∃ content, Source.decode v.file v.bytes = .ok content ∧
    ∃ before rest, lines content = before ++ line :: rest ∧ before.length = number ∧
      state = after (v.surroundings store normalize) v.file .start before

/-- Line `number` of the file of `v` is skipped. -/
def Visit.Skips (v : Visit) (number : Nat) (fault : LineFault) : Prop :=
  ∃ state line, v.Reads store normalize number state line ∧
    (readLine (v.surroundings store normalize) v.file state line).fault = some fault

/-- What a reading logs. -/
def Visit.log (v : Visit) : Log :=
  match Source.decode v.file v.bytes with
  | .error _ => []
  | .ok content => (readFile store normalize v.active v.file content).1

variable {store normalize}

theorem Visit.log_eq {v : Visit} {content : List Char}
    (h : Source.decode v.file v.bytes = .ok content) :
    v.log store normalize = (readFile store normalize v.active v.file content).1 := by
  rw [log, h]

/-- **The lines that a reading reports** are those of its file and those of the files that its lines
ask for. -/
theorem Visit.mem_log {v : Visit} {e : LogEntry} (he : e.ReportsSkip) :
    e ∈ v.log store normalize ↔
      (∃ number fault, v.Skips store normalize number fault ∧
        e = warning (fault.report v.file number)) ∨
      ∃ w, Visits store normalize v w ∧ e ∈ w.log store normalize := by
  cases hcontent : Source.decode v.file v.bytes with
  | error fault => simp [log, Skips, Reads, Visits, hcontent]
  | ok content =>
    rw [log_eq hcontent, readFile_eq_after, mem_logOf]
    constructor
    · rintro ⟨before, line, rest, hlines, hmem | ⟨fault, hfault, rfl⟩⟩
      · obtain ⟨p, hp, log, forest, hchild, hmem⟩ := (mem_log_readLine he).1 hmem
        obtain ⟨loc, bytes, s, hread, hactive, hs, hbelow⟩ := inclusionOf_eq_nodes hchild
        refine .inr ⟨⟨loc :: v.active, p, bytes⟩, ⟨content, hcontent, p,
          mem_askedByLines.2 ⟨before, line, rest, hlines, hp⟩, loc, bytes, hread, hactive, rfl⟩, ?_⟩
        rw [log_eq hs, hbelow]
        exact hmem
      · rw [Nat.zero_add]
        exact .inl ⟨before.length, fault,
          ⟨_, line, ⟨content, hcontent, before, rest, hlines, rfl, rfl⟩, hfault⟩, rfl⟩
    · rintro (⟨_, fault, ⟨_, line, ⟨found, hfound, before, rest, hlines, rfl, rfl⟩, hfault⟩, rfl⟩ |
        ⟨w, ⟨found, hfound, p, hp, loc, bytes, hread, hactive, rfl⟩, hmem⟩)
      · cases hcontent.symm.trans hfound
        refine ⟨before, line, rest, hlines, .inr ⟨fault, hfault, ?_⟩⟩
        rw [Nat.zero_add]
      · cases hcontent.symm.trans hfound
        obtain ⟨before, line, rest, hlines, hp⟩ := mem_askedByLines.1 hp
        cases hs : Source.decode p bytes with
        | error fault => simp [log, hs] at hmem
        | ok s =>
          rw [log_eq hs] at hmem
          refine ⟨before, line, rest, hlines, .inl ((mem_log_readLine he).2
            ⟨p, hp, _, (readFile store normalize (loc :: v.active) p s).2, ?_, hmem⟩)⟩
          change inclusionOf store (readFile store normalize) v.active p = _
          simp [inclusionOf, hread, hactive, hs]

section Root

variable {file : FilePath} {v : Visit} {outer : List Visit} {e : LogEntry}

/-- The lines that a reading of a chain reports are skipped in readings of chains. -/
theorem Nested.exists_of_mem_log (he : e.ReportsSkip) (h : Nested store normalize file v outer)
    (hmem : e ∈ v.log store normalize) :
    ∃ w outer number fault, Nested store normalize file w outer ∧
      w.Skips store normalize number fault ∧ e = warning (fault.report w.file number) := by
  -- The recursion is that of reading: below a file, fewer files are left that are not being read.
  induction hn : remaining store v.active using Nat.strongRecOn generalizing v outer with
  | ind n ih =>
    rcases (Visit.mem_log he).1 hmem with ⟨number, fault, hskips, rfl⟩ | ⟨w, hw, hmem⟩
    · exact ⟨v, outer, number, fault, h, hskips, rfl⟩
    · obtain ⟨content, -, p, -, loc, bytes, hread, hactive, rfl⟩ := id hw
      have hlt := remaining_lt (FileStore.mem_locations_of_read hread) hactive
      exact ih _ (hn ▸ hlt) (h.visit hw) hmem rfl

/-- The lines that a reading of a chain reports are reported by the root file. -/
theorem Nested.mem_log_root (he : e.ReportsSkip) (h : Nested store normalize file v outer)
    (hmem : e ∈ v.log store normalize) : ∃ loc bytes, store.read file = .ok (loc, bytes) ∧
      e ∈ Visit.log store normalize ⟨[loc], file, bytes⟩ := by
  induction h with
  | root h => exact ⟨_, _, h, hmem⟩
  | visit h hw ih => exact ih ((Visit.mem_log he).2 (.inr ⟨_, hw, hmem⟩))

theorem mem_log_parse : e ∈ (parse store normalize file).1 ↔ ∃ loc bytes,
    store.read file = .ok (loc, bytes) ∧ e ∈ Visit.log store normalize ⟨[loc], file, bytes⟩ := by
  rw [parse, Source.read]
  cases hread : store.read file with
  | error reason => simp
  | ok found =>
    obtain ⟨loc, bytes⟩ := found
    cases hs : Source.decode file bytes with
    | error fault => simp [Visit.log, hs]
    | ok s =>
      have hlog : Visit.log store normalize ⟨[loc], file, bytes⟩ =
        (readFile store normalize [loc] file s).1 := Visit.log_eq hs
      simp only [hs, ← hlog]
      constructor
      · exact fun hmem => ⟨loc, bytes, rfl, hmem⟩
      · rintro ⟨_, _, hfound, hmem⟩
        cases hfound
        exact hmem

/-- **The skipped lines of a log** are those of the readings that the root file starts, each with
the file that is read and the number of the line in it. -/
theorem mem_log_iff : (e ∈ (parse store normalize file).1 ∧ e.ReportsSkip) ↔
    ∃ v outer number fault, Nested store normalize file v outer ∧
      v.Skips store normalize number fault ∧ e = warning (fault.report v.file number) := by
  rw [mem_log_parse]
  constructor
  · rintro ⟨⟨loc, bytes, hread, hmem⟩, he⟩
    exact Nested.exists_of_mem_log he (.root hread) hmem
  · rintro ⟨v, outer, number, fault, hv, hskips, rfl⟩
    have he := reportsSkip_report v.file number fault
    exact ⟨hv.mem_log_root he ((Visit.mem_log he).2 (.inl ⟨number, fault, hskips, rfl⟩)), he⟩

end Root

end Readings

end TextFormat

end LayoutTree
