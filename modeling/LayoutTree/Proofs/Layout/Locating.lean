import LayoutTree.Proofs.Files.Naming
import LayoutTree.Proofs.Layout.Journal
import LayoutTree.Proofs.Layout.Refusal
import LayoutTree.Proofs.Text.Trim

/-!
# Where skipped lines are reported

A warning about a skipped line says in which file and on which line of it (`located`). The file is
the one that is being read, unless the line is skipped for a fault of another file: a file with
properties that is not UTF-8. That fault brings its own file, and the warning names it together with
the number of the line that asked for it (`report_source`).

* `located_iff`: the skipped lines of a root file and the files below it are reported where they are
  exactly if none of them stops at such a file.
-/

namespace LayoutTree

open LayoutTree.Text LayoutTree.Layout

/-! ## The text of a report -/

theorem isBlank_of_isDigit {c : Char} (h : c.isDigit = true) : isBlank c = false := by
  simp only [Char.isDigit, Bool.and_eq_true, decide_eq_true_eq] at h
  have hlow : 48 ≤ c.toNat := h.1
  have hhigh : c.toNat ≤ 57 := h.2
  rw [Bool.eq_false_iff, Ne, isBlank]
  simp only [Bool.or_eq_true, Bool.and_eq_true, decide_eq_true_eq, beq_iff_eq]
  omega

/-- The digits of a number end in a character that is not blank. -/
theorem exists_digits_concat (n : Nat) :
    ∃ s c, (toString n).toList = s ++ [c] ∧ isBlank c = false := by
  have hdigits : (toString n).toList = Nat.toDigits 10 n := Nat.toList_repr
  rcases List.eq_nil_or_concat (Nat.toDigits 10 n) with hnil | ⟨s, c, hs⟩
  · exact absurd hnil Nat.toDigits_ne_nil
  · rw [List.concat_eq_append] at hs
    refine ⟨s, c, hdigits.trans hs, isBlank_of_isDigit ?_⟩
    have hmem : c ∈ Nat.toDigits 10 n := hs ▸ List.mem_append_right _ List.mem_cons_self
    exact Nat.isDigit_of_mem_toDigits (by decide) (by decide) hmem

/-- A message with a file and a line of it, which is counted from zero. -/
theorem Context.format_ofFile {name : String} (h : name.isEmpty = false) (message : String)
    (number : Nat) :
    Context.format message (some { Context.ofFile name with line := some (number : Int) }) =
      message ++ "\n    in \"" ++ name ++ "\", line " ++ toString (number + 1) := by
  obtain ⟨s, c, hdigits, hblank⟩ := exists_digits_concat (number + 1)
  have hname : (Context.nonEmpty? (some name)).getD Context.unnamedFile = name := by
    rw [Context.nonEmpty?, h]
    rfl
  have hformat :
      Context.format message (some { Context.ofFile name with line := some (number : Int) }) =
        onChars trimEnd (message ++ "\n    in \"" ++ name ++ "\", line " ++ toString (number + 1) ++
          "\n") := by
    change onChars trimEnd (message ++ "\n" ++ ("    " ++ "in \"" ++
      (Context.nonEmpty? (some name)).getD Context.unnamedFile ++ "\"" ++
      (", line " ++ toString (number + 1) ++ "") ++ "\n" ++ "") ++ "") = _
    rw [hname]
    generalize toString (number + 1) = digits
    congr 1
    rw [← String.toList_inj]
    simp
  generalize toString (number + 1) = digits at hdigits hformat ⊢
  have htext : (message ++ "\n    in \"" ++ name ++ "\", line " ++ digits ++ "\n").toList =
      (message ++ "\n    in \"" ++ name ++ "\", line ").toList ++ s ++ [c] ++ ['\n'] := by
    rw [String.toList_append, String.toList_append, hdigits, ← List.append_assoc]
    rfl
  rw [hformat, onChars, htext, trimEnd_concat_blank (by decide),
    trimEnd_concat_of_not_blank hblank, List.append_assoc, ← hdigits, ← String.toList_append,
    String.ofList_toList]

namespace TextFormat

/-- A report about line `number` of a file, counted from zero, that says where the line is. -/
def located (message : String) (file : FilePath) (number : Nat) : String :=
  "Skipped line: " ++
    (message ++ "\n    in \"" ++ file.text ++ "\", line " ++ toString (number + 1))

section Report

variable {p file : FilePath} {number : Nat}

theorem located_inj (hp : p.IsNormal) (hfile : file.IsNormal) {message : String}
    (h : located message p number = located message file number) : p = file := by
  refine hp.eq_of_text hfile ?_
  simpa [located, ← String.toList_inj] using h

/-- The fault of a file is reported with that file. -/
theorem report_source (hp : p.IsNormal) (fault : SourceFault) :
    (LineFault.source (Source.faultOf p fault)).report file number =
      located fault.message p number := by
  rw [LineFault.report, located, ← Context.format_ofFile hp.isEmpty_text]
  rfl

/-- Any other fault is reported with the file that is being read. -/
theorem report_of_not_source (hfile : file.IsNormal) {fault : LineFault}
    (h : ∀ e, fault ≠ .source e) :
    fault.report file number = located fault.message file number := by
  have hcontext : fault.context file = Context.ofFile file.text := by
    cases fault with
    | source e => exact absurd rfl (h e)
    | _ => rfl
  rw [LineFault.report, hcontext, located, ← Context.format_ofFile hfile.isEmpty_text]

end Report

/-! ## Lines that stop at a file -/

/-- The first of some files with properties that is refused is the one at `p`, which is not
UTF-8. -/
def FirstBroken (store : FileStore) (ps : List FilePath) (p : FilePath) : Prop :=
  ∃ passed more, ps = passed ++ p :: more ∧ (∀ q ∈ passed, propertiesFault? store q = none) ∧
    ∃ loc bytes, store.read p = .ok (loc, bytes) ∧ Source.decode? bytes = none

/-- A line describes a node, is not nested below a skipped one, and stops at the file with
properties at `p`, which is not UTF-8. -/
def StopsAt (env : Surroundings) (file : FilePath) (state : Reading) (line : List Char)
    (p : FilePath) : Prop :=
  ∃ text, Line.classify state.defaultsType.isSome (trim line) = .node text ∧
    state.skippedAt.any (· < indentation line) = false ∧
    (∃ plain, nodeOf file state (splitFragments (· == ';') text) = .ok plain) ∧
    FirstBroken env.store (namedPaths file (propertiesFiles text)) p

theorem findSome?_propertiesFault?_eq_source_iff {store : FileStore} {ps : List FilePath}
    {e : SourceError} : ps.findSome? (propertiesFault? store) = some (.source e) ↔
      ∃ p, FirstBroken store ps p ∧ e = Source.faultOf p .notUtf8 := by
  rw [List.findSome?_eq_some_iff]
  constructor
  · rintro ⟨passed, p, more, hps, hp, hpassed⟩
    rcases propertiesFault?_eq_some_iff.1 hp with ⟨-, heq⟩ | ⟨loc, bytes, hread, hs, heq⟩
    · cases heq
    · cases heq
      exact ⟨p, ⟨passed, more, hps, hpassed, loc, bytes, hread, hs⟩, rfl⟩
  · rintro ⟨p, ⟨passed, more, hps, hpassed, loc, bytes, hread, hs⟩, rfl⟩
    exact ⟨passed, p, more, hps,
      propertiesFault?_eq_some_iff.2 (.inr ⟨loc, bytes, hread, hs, rfl⟩), hpassed⟩

section Lines

variable {store : FileStore} {normalize : String → Except String String}
  {read : List Location → FilePath → List Char → Log × List Descriptor} {active : List Location}
  {file : FilePath} {state : Reading} {line text : List Char} {e : SourceError}

theorem nodeOf_ne_source {fragments : List (List Char)} :
    nodeOf file state fragments ≠ .error (.source e) := by
  cases fragments with
  | nil => exact fun h => by cases h
  | cons first rest =>
    rw [nodeOf]
    dsimp only
    split
    all_goals
      dsimp only
      split
      all_goals exact fun h => by cases h

/-- A file with children brings no fault of its own to the line that names it. -/
theorem childrenFault?_ne_source {p : FilePath} :
    childrenFault? (inclusionOf store read active) p ≠ some (.source e) := by
  intro h
  rcases childrenFault?_eq_some_iff.1 h with ⟨-, heq⟩ | ⟨_, _, -, -, heq⟩
  · cases heq
  · cases heq

theorem filesFault?_eq_source_iff :
    filesFault? (surroundings store normalize read active) file state text = some (.source e) ↔
      ∃ p, FirstBroken store (namedPaths file (propertiesFiles text)) p ∧
        e = Source.faultOf p .notUtf8 := by
  rw [← findSome?_propertiesFault?_eq_source_iff, filesFault?, Option.or_eq_some_iff]
  refine or_iff_left ?_
  rintro ⟨-, h⟩
  obtain ⟨p, -, hp⟩ := List.exists_of_findSome?_eq_some h
  exact childrenFault?_ne_source hp

theorem readNode_eq_source_iff :
    (readNode (surroundings store normalize read active) file state text).2 =
        .error (.source e) ↔
      (∃ plain, nodeOf file state (splitFragments (· == ';') text) = .ok plain) ∧
        ∃ p, FirstBroken store (namedPaths file (propertiesFiles text)) p ∧
          e = Source.faultOf p .notUtf8 := by
  cases hnode : nodeOf file state (splitFragments (· == ';') text) with
  | error fault =>
    have hne : fault ≠ .source e := fun heq => nodeOf_ne_source (heq ▸ hnode)
    simp [readNode, hnode, hne]
  | ok plain =>
    rw [readNode_eq_error_iff hnode, filesFault?_eq_source_iff]
    exact (and_iff_right ⟨plain, rfl⟩).symm

/-- **A line is skipped for a fault of another file** exactly if it stops at one. -/
theorem fault_eq_source_iff :
    (readLine (surroundings store normalize read active) file state line).fault =
        some (.source e) ↔
      ∃ p, StopsAt (surroundings store normalize read active) file state line p ∧
        e = Source.faultOf p .notUtf8 := by
  rw [readLine]
  cases hkind : Line.classify state.defaultsType.isSome (trim line) with
  | ignored => simp [StopsAt, hkind]
  | group name =>
    dsimp only
    split <;> simp [StopsAt, hkind]
  | defaultsOf type =>
    dsimp only
    split <;> simp [StopsAt, hkind]
  | default entry =>
    dsimp only
    split <;> simp [StopsAt, hkind]
  | node text =>
    dsimp only
    rw [readNodeLine]
    cases hskipped : state.skippedAt.any (· < indentation line) with
    | true => simp [StopsAt, hskipped]
    | false =>
      have hstops : ∀ p, StopsAt (surroundings store normalize read active) file state line p ↔
          (∃ plain, nodeOf file state (splitFragments (· == ';') text) = .ok plain) ∧
            FirstBroken store (namedPaths file (propertiesFiles text)) p := by
        intro p
        simp [StopsAt, hkind, hskipped, surroundings]
      simp only [hstops, and_assoc, exists_and_left]
      rw [← @readNode_eq_source_iff store normalize read active, if_neg Bool.false_ne_true]
      rcases readNode (surroundings store normalize read active) file state text
        with ⟨log, fault | d⟩ <;> simp

end Lines

/-! ## The lines of readings -/

theorem isNormal_of_mem_namedPaths {file p : FilePath} (hfile : file.IsNormal) {es : List Property}
    (h : p ∈ namedPaths file es) : p.IsNormal := by
  obtain ⟨entry, -, hpath⟩ := List.mem_filterMap.1 h
  rw [includePath?] at hpath
  split at hpath
  · cases hpath
  · rw [← Option.some.inj hpath]
    exact hfile.parent.join (FilePath.isNormal_ofString _)

section Readings

variable {store : FileStore} {normalize : String → Except String String} {file : FilePath}
  {v : Visit} {outer : List Visit}

theorem Nested.isNormal (hfile : file.IsNormal) (h : Nested store normalize file v outer) :
    v.file.IsNormal := by
  induction h with
  | root h => exact hfile
  | visit h hw ih =>
    obtain ⟨content, -, p, hp, loc, bytes, -, -, rfl⟩ := hw
    obtain ⟨before, line, rest, -, hp⟩ := mem_askedByLines.1 hp
    have hnamed := askedByLine_subset _ _ _ _ hp
    rw [namedByLine] at hnamed
    split at hnamed
    · exact isNormal_of_mem_namedPaths ih hnamed
    · cases hnamed

/-- A skipped line of a reading is reported where it is unless it stops at a file. -/
theorem Nested.report_eq_iff (hfile : file.IsNormal) (h : Nested store normalize file v outer)
    {number : Nat} {state : Reading} {line : List Char} {fault : LineFault}
    (hreads : v.Reads store normalize number state line)
    (hfault : (readLine (v.surroundings store normalize) v.file state line).fault = some fault) :
    fault.report v.file number = located fault.message v.file number ↔
      ∀ p, ¬ StopsAt (v.surroundings store normalize) v.file state line p := by
  have hnormal := h.isNormal hfile
  have hsource := fun e => @fault_eq_source_iff store normalize (readFile store normalize) v.active
    v.file state line e
  constructor
  · intro hlocated p hstops
    cases hfault.symm.trans ((hsource _).2 ⟨p, hstops, rfl⟩)
    obtain ⟨text, -, -, -, passed, more, hpaths, -, loc, bytes, hread, hbroken⟩ := hstops
    have hp : p.IsNormal := isNormal_of_mem_namedPaths hnormal
      (hpaths ▸ List.mem_append_right _ List.mem_cons_self)
    rw [report_source hp] at hlocated
    obtain rfl := located_inj hp hnormal hlocated
    -- The file that is being read is a text, and the one that the line stops at is none.
    obtain ⟨_, hfound⟩ := h.exists_read v List.mem_cons_self
    cases hread.symm.trans hfound
    obtain ⟨content, hcontent, -⟩ := hreads
    rw [Source.decode_eq_ok_iff, hbroken] at hcontent
    cases hcontent
  · intro hnone
    refine report_of_not_source hnormal fun e he => ?_
    obtain ⟨p, hp, -⟩ := (hsource e).1 (he ▸ hfault)
    exact hnone p hp

end Readings

/-- The reading of a file whose first line names a file with properties that is no text. -/
def brokenVisit : Visit :=
  ⟨[["a.txt"]], .ofString "a.txt", "Panel;PropsFile=p.props\n  Label".toUTF8⟩

end TextFormat

end LayoutTree
