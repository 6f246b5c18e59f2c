import LayoutTree.Diagnostic.Log
import LayoutTree.Layout.Defaults
import LayoutTree.Layout.Fragment
import LayoutTree.Layout.Outline
import LayoutTree.Layout.Source

/-!
# The text format

A layout written line by line. A line is a comment, names the group of the nodes after it, opens the
defaults of a type, declares a default, or describes a node; nodes nest by indentation. A node may
take properties and children from other files. A line that fails is logged and left out together
with the lines nested below it; the rest of the source is still read.

* `Line.classify`: the kind of a line.
* `readLine`: what one line does to the reading of a file.
* `readFile`: the forest of a file; `active` holds the files being read, so that a file never
  includes itself, which is also why the recursion ends (`remaining_lt`).
* `parse`: the forest of a root file.
-/

namespace LayoutTree.TextFormat

open LayoutTree.Text LayoutTree.Layout

/-! ## Lines -/

/-- What a line says. -/
inductive Line
  /-- Nothing. -/
  | ignored
  /-- The group of the following nodes. -/
  | group (name : List Char)
  /-- The type whose defaults follow. -/
  | defaultsOf (type : List Char)
  /-- A default of the open type. -/
  | default (entry : Property)
  /-- A node. -/
  | node (text : List Char)

/-- The keyword in front of a group. -/
def groupKeyword : List Char := "grupo=".toList

/-- The keyword in front of a type with defaults. -/
def defaultsKeyword : List Char := "control=".toList

/-- The value of a line after a keyword, without blanks and quotes around it. -/
def keywordValue (keyword line : List Char) : List Char :=
  stripQuotes (trim (line.drop keyword.length))

/-- What a trimmed line says, given whether the defaults of a type are open. -/
def Line.classify (inDefaults : Bool) (line : List Char) : Line :=
  if line.isEmpty || line.head? == some '#' then .ignored
  else if groupKeyword.isPrefixOf (fold line) then .group (keywordValue groupKeyword line)
  else if defaultsKeyword.isPrefixOf (fold line) then
    .defaultsOf (keywordValue defaultsKeyword line)
  else if inDefaults && line.contains '=' && !line.contains ';' then .default (readProperty line)
  else .node line

/-! ## Faults of lines -/

/-- Why a line is skipped. -/
inductive LineFault
  /-- The defaults belong to no type. -/
  | emptyDefaultsType
  /-- The line is nested below a skipped one. -/
  | parentSkipped
  /-- The node line holds no fragment. -/
  | emptyLine
  /-- The node line names no type, and no defaults are open. -/
  | missingType
  /-- The line includes a file that is being read. -/
  | recursiveInclude (p : FilePath)
  /-- A file that the line takes properties from has a fault. -/
  | source (e : SourceError)
  /-- The file system refuses a path of the line. -/
  | path (reason : FileError) (p : FilePath)
  /-- The name of the group is refused. -/
  | group (message : String)

namespace LineFault

/-- The message of a fault, without its context. -/
def message : LineFault → String
  | .emptyDefaultsType => "Empty type in defaults block"
  | .parentSkipped => "Parent line was skipped"
  | .emptyLine => "Empty node line"
  | .missingType => "Node line without a type and outside of a defaults block"
  | .recursiveInclude p => "Recursive include of " ++ quoted p.text
  | .source e => e.fault.message
  | .path reason p => "Unexpected error: " ++ reason.message p
  | .group text => "Unexpected error: " ++ text

/-- Where a fault arose: in the file being read, or in the file whose fault it is. -/
def context (file : FilePath) : LineFault → Context
  | .source e => e.context
  | _ => Context.ofFile file.text

/-- The log text about the line of a file, counted from zero. -/
def report (file : FilePath) (number : Nat) (fault : LineFault) : String :=
  "Skipped line: " ++
    Context.format fault.message (some { fault.context file with line := some number })

end LineFault

/-- The part of the program that log entries about text sources come from. -/
def channel : String := "dynui.parsing.text_format"

/-- A log entry about a text source. -/
def warning (text : String) : LogEntry := ⟨.warning, channel, text⟩

/-! ## Included files -/

/-- The names of properties whose value is a file with further properties. -/
def propertiesFileNames : List String := ["PropertiesFile", "LoadProps", "PropsFile"]

/-- The names of properties whose value is a file with children. -/
def childrenFileNames : List String := ["Children", "ChildrenFile", "LoadChildren"]

/-- The name of the property that may name a file with children. -/
def contentName : String := "Content"

/-- The end of a content that names a file with children. -/
def childrenFileEnd : List Char := ".txt".toList

/-- The path that the value of an include property names, relative to the including file. -/
def includePath? (file : FilePath) (value : Option String) : Option FilePath :=
  let name := stripQuotes (trim (value.getD "").toList)
  if name.isEmpty then none else some (file.parent.join (FilePath.ofString (String.ofList name)))

/-- A node with the properties that the lines of a file give it and that it does not have yet. -/
def addMissing (d : Descriptor) (content : List (List Char)) : Descriptor :=
  content.foldl
    (fun d line =>
      let line := trim line
      if line.isEmpty || line.head? == some '#' then d
      else
        let entry := readProperty line
        if entry.name ≠ "" ∧ entry.value ≠ none ∧ d.has entry.name = false then d.append entry
        else d)
    d

/-- A node with the properties of the files that `includes` name. -/
def loadProperties (store : FileStore) (file : FilePath) (d : Descriptor) :
    List Property → Log × Except LineFault Descriptor
  | [] => ([], .ok d)
  | entry :: rest =>
    match includePath? file entry.value with
    | none => loadProperties store file d rest
    | some p =>
      match store.read p with
      | .error reason =>
        if FileStore.saysAbsent reason then
          let (log, result) := loadProperties store file d rest
          (warning ("Properties file not found: " ++ p.text) :: log, result)
        else ([], .error (.path reason p))
      | .ok (_, bytes) =>
        match Source.decode p bytes with
        | .error e => ([], .error (.source e))
        | .ok s => loadProperties store file (addMissing d (lines s)) rest

/-- What including a file with children yields. -/
inductive Inclusion
  /-- There is no such file. -/
  | absent
  /-- The file has a fault and is left out. -/
  | faulty (e : SourceError)
  /-- The roots of the file, and what reading it logged. -/
  | nodes (log : Log) (forest : List Descriptor)

/-- A node with the roots of the files that `includes` name as its children, each file read by
`include`. -/
def loadChildren (read : FilePath → Except LineFault Inclusion) (file : FilePath) (d : Descriptor) :
    List Property → Log × Except LineFault Descriptor
  | [] => ([], .ok d)
  | entry :: rest =>
    match includePath? file entry.value with
    | none => loadChildren read file d rest
    | some p =>
      match read p with
      | .error fault => ([], .error fault)
      | .ok .absent =>
        let (log, result) := loadChildren read file d rest
        (warning ("Children file not found: " ++ p.text) :: log, result)
      | .ok (.faulty e) =>
        let (log, result) := loadChildren read file d rest
        (warning ("Children file skipped: " ++ e.text) :: log, result)
      | .ok (.nodes before forest) =>
        let (log, result) :=
          loadChildren read file { d with children := d.children ++ forest } rest
        (before ++ log, result)

/-- The properties of a node that name files with children, and the node without them. -/
def takeIncludes (d : Descriptor) : List Property × Descriptor :=
  let (includes, d) := d.take childrenFileNames
  let content := stripQuotes (trim ((d.get contentName).getD "").toList)
  if childrenFileEnd.isSuffixOf (lower content) then
    let (more, d) := d.take [contentName]
    (includes ++ more, d)
  else (includes, d)

/-! ## Reading a file -/

/-- What the lines read so far have established. -/
structure Reading where
  /-- The group of the following nodes. -/
  group : Option String
  /-- The type whose defaults are open. -/
  defaultsType : Option String
  /-- The defaults declared so far. -/
  defaults : Defaults
  /-- The nodes placed so far. -/
  outline : Outline
  /-- The indentation of the last node line, if it was skipped. -/
  skippedAt : Option Nat

/-- Nothing read yet. -/
def Reading.start : Reading := ⟨none, none, .empty, .empty, none⟩

/-- What reading a file depends on. -/
structure Surroundings where
  /-- The files that can be included. -/
  store : FileStore
  /-- Changes the name of a group, or refuses it with a message. -/
  normalize : String → Except String String
  /-- Reads a file with children. -/
  children : FilePath → Except LineFault Inclusion

/-- The node that a fragment list describes, before files and defaults. -/
def nodeOf (file : FilePath) (state : Reading) (fragments : List (List Char)) :
    Except LineFault Descriptor :=
  match fragments with
  | [] => .error .emptyLine
  | first :: rest =>
    let (type, fragments) :=
      if (findAssignment first).isNone then (String.ofList (stripQuotes first), rest)
      else (state.defaultsType.getD "", first :: rest)
    if type.isEmpty then .error .missingType
    else
      .ok ⟨type, (fragments.map readProperty).filter (·.name ≠ ""), state.group, [], some file.text⟩

/-- The node that a line describes, complete with files and defaults. -/
def readNode (env : Surroundings) (file : FilePath) (state : Reading) (line : List Char) :
    Log × Except LineFault Descriptor :=
  match nodeOf file state (splitFragments (· == ';') line) with
  | .error fault => ([], .error fault)
  | .ok d =>
    let (includes, d) := d.take propertiesFileNames
    match loadProperties env.store file d includes with
    | (log, .error fault) => (log, .error fault)
    | (log, .ok d) =>
      let (includes, d) := takeIncludes d
      match loadChildren env.children file d includes with
      | (more, .error fault) => (log ++ more, .error fault)
      | (more, .ok d) => (log ++ more, .ok (state.defaults.apply d))

/-- What a line does: the state after it, what it logs, and why it is skipped, if it is. -/
structure Effect where
  state : Reading
  log : Log
  fault : Option LineFault

/-- What a node line does. -/
def readNodeLine (env : Surroundings) (file : FilePath) (state : Reading) (indent : Nat)
    (line : List Char) : Effect :=
  if state.skippedAt.any (· < indent) then ⟨state, [], some .parentSkipped⟩
  else
    match readNode env file state line with
    | (log, .error fault) => ⟨{ state with skippedAt := some indent }, log, some fault⟩
    | (log, .ok d) =>
      ⟨{ state with outline := state.outline.attach indent d, skippedAt := none }, log, none⟩

/-- What a line does. -/
def readLine (env : Surroundings) (file : FilePath) (state : Reading) (line : List Char) : Effect :=
  match Line.classify state.defaultsType.isSome (trim line) with
  | .ignored => ⟨state, [], none⟩
  | .group name =>
    match env.normalize (String.ofList name) with
    | .error message => ⟨state, [], some (.group message)⟩
    | .ok name => ⟨{ state with group := if name.isEmpty then none else some name }, [], none⟩
  | .defaultsOf type =>
    if type.isEmpty then ⟨state, [], some .emptyDefaultsType⟩
    else
      let type := String.ofList type
      ⟨{ state with defaultsType := some type, defaults := state.defaults.declare type }, [], none⟩
  | .default entry =>
    match state.defaultsType, entry.value with
    | some type, some value =>
      ⟨{ state with defaults := state.defaults.add type entry.name (some value) }, [], none⟩
    | _, _ => ⟨state, [], none⟩
  | .node text => readNodeLine env file state (indentation line) text

/-- What the lines of a file do, counted from `number`. -/
def readLines (env : Surroundings) (file : FilePath) (number : Nat) (state : Reading) :
    List (List Char) → Reading × Log
  | [] => (state, [])
  | line :: rest =>
    let effect := readLine env file state line
    let (final, log) := readLines env file (number + 1) effect.state rest
    (final,
      effect.log ++ (effect.fault.map fun fault => warning (fault.report file number)).toList ++ log)

/-! ## Files that include files -/

/-- How many files of a store are not being read. -/
def remaining (store : FileStore) (active : List Location) : Nat :=
  (store.locations.filter fun loc => !active.contains loc).length

theorem length_filter_lt {α : Type} {p q : α → Bool} {l : List α} {a : α} (ha : a ∈ l)
    (hp : p a = false) (hq : q a = true) (h : ∀ b, p b = true → q b = true) :
    (l.filter p).length < (l.filter q).length := by
  induction l with
  | nil => simp at ha
  | cons b l ih =>
    have hle : (l.filter p).length ≤ (l.filter q).length := by
      clear ih ha
      induction l with
      | nil => simp
      | cons c l ih =>
        by_cases hc : p c
        · simp [hc, h c hc, ih]
        · by_cases hc' : q c <;> simp [hc, hc'] <;> omega
    rcases List.mem_cons.1 ha with rfl | ha
    · simp [hp, hq]
      omega
    · have := ih ha
      by_cases hb : p b
      · simp [hb, h b hb, this]
      · by_cases hb' : q b <;> simp [hb, hb'] <;> omega

/-- Reading one more file leaves fewer files to read. -/
theorem remaining_lt {store : FileStore} {active : List Location} {loc : Location}
    (h : loc ∈ store.locations) (hne : loc ∉ active) :
    remaining store (loc :: active) < remaining store active := by
  refine length_filter_lt h ?_ ?_ ?_
  · simp
  · simpa using hne
  · intro b hb
    simp only [List.contains_cons, Bool.not_or, Bool.and_eq_true] at hb
    exact hb.2

/-- The forest of a file, and what reading it logged. -/
def readFile (store : FileStore) (normalize : String → Except String String)
    (active : List Location) (file : FilePath) (content : List Char) : Log × List Descriptor :=
  let children := fun p =>
    match h : store.read p with
    | .error reason =>
      if FileStore.saysAbsent reason then .ok .absent else .error (.path reason p)
    | .ok (loc, bytes) =>
      if hm : loc ∈ active then .error (.recursiveInclude p)
      else
        have _ := remaining_lt (FileStore.mem_locations_of_read h) hm
        match Source.decode p bytes with
        | .error e => .ok (.faulty e)
        | .ok s =>
          let (log, forest) := readFile store normalize (loc :: active) p s
          .ok (.nodes log forest)
  let (state, log) := readLines ⟨store, normalize, children⟩ file 0 .start (lines content)
  (log, state.outline.forest)
termination_by remaining store active
decreasing_by assumption

/-- The forest of a root file, and what reading it logged. -/
def parse (store : FileStore) (normalize : String → Except String String) (file : FilePath) :
    Log × Except ParseFailure (List Descriptor) :=
  match Source.read store file with
  | .error e => ([], .error e)
  | .ok (loc, s) =>
    let (log, forest) := readFile store normalize [loc] file s
    (log, .ok forest)

end LayoutTree.TextFormat
