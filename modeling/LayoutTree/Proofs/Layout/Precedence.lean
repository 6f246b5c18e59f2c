import LayoutTree.Proofs.Layout.Keyed
import LayoutTree.Proofs.Layout.NodeLine
import LayoutTree.Proofs.Layout.Transparency

/-!
# Where the properties of a node line come from

A node line gives its node properties of its own (`lineProperties`), those that the files with
properties assign which it names (`fileProperties`), and those that were declared before as defaults
of its type (`defaultSteps`). Together they make up the properties of the node
(`properties_of_readNode`): of the files only the first assignment of each key that the line does not
give counts, and of the defaults the last one of each key that neither gives.

* `properties_of_nodeLine`: the properties of the node of a line that takes no children from files,
  in order, and the value of each.
-/

namespace LayoutTree

open LayoutTree.Text LayoutTree.Layout

namespace TextFormat

/-! ## Three sources -/

/-- The keys of properties whose value is a file with further properties. -/
def propertiesFileKeys : List String := propertiesFileNames.map folded

/-- The keys of properties whose value is a file with children. -/
def childrenFileKeys : List String := childrenFileNames.map folded

/-- The type of the node of a line: the one that it starts with, else the one whose defaults are
open. -/
def lineType (open? : Option String) (text : List Char) : String :=
  match splitFragments (· == ';') text with
  | [] => ""
  | first :: _ =>
    if (findAssignment first).isNone then String.ofList (stripQuotes first) else open?.getD ""

/-- The properties that a node line gives, in order: those of its fragments after the type, if it
starts with one. Fragments without a name give none. -/
def lineProperties (text : List Char) : List Property :=
  let fragments := splitFragments (· == ';') text
  let described := match fragments with
    | [] => []
    | first :: rest => if (findAssignment first).isNone then rest else first :: rest
  (described.map readProperty).filter (·.name ≠ "")

/-- The properties of a line that name files with further properties. -/
def propertiesFiles (text : List Char) : List Property :=
  (lineProperties text).filter fun p => p.key ∈ propertiesFileKeys

/-- The property that a line of a file with properties assigns. A comment and a name alone assign
none. -/
def assigned? (line : List Char) : Option Property :=
  let line := trim line
  if line.isEmpty || line.head? == some '#' then none
  else
    let entry := readProperty line
    if entry.name ≠ "" ∧ entry.value ≠ none then some entry else none

/-- The lines of the file that a property names, none if there is no such file. -/
def linesOf (store : FileStore) (file : FilePath) (entry : Property) : List (List Char) :=
  match includePath? file entry.value with
  | none => []
  | some p =>
    match store.read p with
    | .error _ => []
    | .ok (_, bytes) => ((Source.decode p bytes).toOption.map lines).getD []

/-- The properties that the files assign which some properties name, in order. -/
def fileProperties (store : FileStore) (file : FilePath) (es : List Property) : List Property :=
  es.flatMap fun entry => (linesOf store file entry).filterMap assigned?

/-- The properties that a line gives, and then what the files assign that it names and it does not
give itself. -/
def givenProperties (store : FileStore) (file : FilePath) (text : List Char) : List Property :=
  let own := apartFrom propertiesFileKeys (lineProperties text)
  own ++ missingFrom (own.map Property.key) (fileProperties store file (propertiesFiles text))

/-- Whether the content names a file with children. -/
def takesContent (ps : List Property) : Bool :=
  namesChildren ((valueOf (folded contentName) ps).getD "")

/-- The keys of the properties that are taken out when children are taken from files. -/
def takenKeys (ps : List Property) : List String :=
  if takesContent ps then folded contentName :: childrenFileKeys else childrenFileKeys

/-- The properties that are left once children have been taken from files. -/
def withoutIncludes (ps : List Property) : List Property := apartFrom (takenKeys ps) ps

/-- The type whose defaults are open after a line. -/
def openAfter (type? : Option String) (line : List Char) : Option String :=
  match Line.classify type?.isSome (trim line) with
  | .defaultsOf type => if type.isEmpty then type? else some (String.ofList type)
  | _ => type?

/-- What a line does to the defaults, given the type whose defaults are open. -/
def defaultStep? (type? : Option String) (line : List Char) : Option Defaults.Step :=
  match Line.classify type?.isSome (trim line) with
  | .defaultsOf type => if type.isEmpty then none else some (.declare (String.ofList type))
  | .default entry => if entry.value.isSome then type?.map (.add · entry) else none
  | _ => none

/-- What lines do to the defaults. -/
def defaultSteps (type? : Option String) : List (List Char) → List Defaults.Step
  | [] => []
  | line :: rest => (defaultStep? type? line).toList ++ defaultSteps (openAfter type? line) rest

/-! ## Defaults -/

section Lines

variable (env : Surroundings) (file : FilePath) (state : Reading)

theorem defaults_readLine (line : List Char) :
    (readLine env file state line).state.defaults =
        (defaultStep? state.defaultsType line).toList.foldl Defaults.after state.defaults ∧
      (readLine env file state line).state.defaultsType = openAfter state.defaultsType line := by
  obtain ⟨group, type?, defaults, outline, skippedAt⟩ := state
  unfold readLine defaultStep? openAfter
  dsimp only
  cases Line.classify type?.isSome (trim line) with
  | ignored => exact ⟨rfl, rfl⟩
  | group name =>
    dsimp only
    split <;> exact ⟨rfl, rfl⟩
  | defaultsOf type =>
    dsimp only
    split <;> exact ⟨rfl, rfl⟩
  | default entry =>
    obtain ⟨name, value⟩ := entry
    cases type? with
    | none => cases value <;> exact ⟨rfl, rfl⟩
    | some type => cases value <;> exact ⟨rfl, rfl⟩
  | node text =>
    dsimp only [readNodeLine]
    split
    · exact ⟨rfl, rfl⟩
    · split <;> exact ⟨rfl, rfl⟩

theorem defaults_after_eq (ls : List (List Char)) : (after env file state ls).defaults =
    (defaultSteps state.defaultsType ls).foldl Defaults.after state.defaults := by
  induction ls generalizing state with
  | nil => rfl
  | cons line rest ih =>
    obtain ⟨hdefaults, htype⟩ := defaults_readLine env file state line
    rw [after_cons, ih, hdefaults, htype, defaultSteps, List.foldl_append]

/-- **The defaults of a type** after some lines of a file are the last ones that were declared for
each key, in the order in which the keys were declared. -/
theorem entries_after (ls : List (List Char)) (typeName : String) :
    (after env file .start ls).defaults.entries typeName =
      lastOfEach (Defaults.added (defaultSteps none ls) typeName) := by
  rw [defaults_after_eq]
  exact Defaults.entries_ofSteps _ _

end Lines

/-! ## The node of a line -/

/-- A descriptor with more properties after its own. -/
def extended (d : Descriptor) (ps : List Property) : Descriptor :=
  { d with properties := d.properties ++ ps }

theorem extended_nil (d : Descriptor) : extended d [] = d := by
  cases d
  simp [extended]

theorem extended_append (d : Descriptor) (p : Property) (ps : List Property) :
    extended (d.append p) ps = extended d (p :: ps) := by
  cases d
  simp [extended, Descriptor.append]

theorem extended_extended (d : Descriptor) (ps qs : List Property) :
    extended (extended d ps) qs = extended d (ps ++ qs) := by
  rw [extended, extended, extended, List.append_assoc]

theorem has_iff {d : Descriptor} {name : String} :
    d.has name = true ↔ folded name ∈ d.properties.map Property.key := by
  simp only [Descriptor.has, List.any_eq_true, List.mem_map, decide_eq_true_eq]

/-- The lines of a file give a node the properties that it lacks. -/
theorem addMissing_eq (d : Descriptor) (content : List (List Char)) :
    addMissing d content =
      extended d (missingFrom (d.properties.map Property.key) (content.filterMap assigned?)) := by
  induction content generalizing d with
  | nil => exact (extended_nil d).symm
  | cons line rest ih =>
    rw [addMissing, List.foldl_cons, ← addMissing, List.filterMap_cons, assigned?]
    dsimp only
    generalize readProperty (trim line) = entry
    by_cases hblank : ((trim line).isEmpty || (trim line).head? == some '#') = true
    · rw [if_pos hblank, if_pos hblank, ih]
    · rw [if_neg hblank, if_neg hblank]
      by_cases hassigns : entry.name ≠ "" ∧ entry.value ≠ none
      · rw [if_pos hassigns]
        dsimp only
        by_cases hhas : d.has entry.name = true
        · have hseen : entry.key ∈ _ := has_iff.1 hhas
          rw [if_neg (by simp [hhas]), ih, missingFrom, if_pos (by simpa using hseen)]
        · have hseen : entry.key ∉ _ := mt has_iff.2 hhas
          rw [if_pos ⟨hassigns.1, hassigns.2, by simpa using hhas⟩, ih, extended_append, missingFrom,
            if_neg (by simpa using hseen)]
          congr 2
          refine missingFrom_congr (fun key => ?_) _
          simp [Descriptor.append, or_comm]
      · rw [if_neg hassigns, if_neg fun h => hassigns ⟨h.1, h.2.1⟩, ih]

/-- A file that is there gives a node the properties that it lacks, one that is not there none. -/
theorem loadProperties_cons {store : FileStore} {file : FilePath} {entry : Property}
    {es : List Property} {d d' : Descriptor}
    (h : (loadProperties store file d (entry :: es)).2 = .ok d') :
    (loadProperties store file (addMissing d (linesOf store file entry)) es).2 = .ok d' := by
  rw [loadProperties] at h
  rw [linesOf]
  cases hpath : includePath? file entry.value with
  | none =>
    rw [hpath] at h
    exact h
  | some p =>
    simp only [hpath] at h ⊢
    cases hread : store.read p with
    | error reason =>
      simp only [hread] at h ⊢
      split at h
      · exact h
      · cases h
    | ok found =>
      obtain ⟨loc, bytes⟩ := found
      simp only [hread] at h ⊢
      cases hs : Source.decode p bytes with
      | error e => simp [hs] at h
      | ok s =>
        simp only [hs] at h
        exact h

theorem loadProperties_eq_ok {store : FileStore} {file : FilePath} {es : List Property}
    {d d' : Descriptor} (h : (loadProperties store file d es).2 = .ok d') :
    d' = extended d
      (missingFrom (d.properties.map Property.key) (fileProperties store file es)) := by
  induction es generalizing d with
  | nil =>
    obtain rfl : d = d' := by simpa [loadProperties] using h
    exact (extended_nil d).symm
  | cons entry rest ih =>
    have hrest := ih (loadProperties_cons h)
    rw [addMissing_eq, extended_extended] at hrest
    have hfiles : fileProperties store file (entry :: rest) =
        (linesOf store file entry).filterMap assigned? ++ fileProperties store file rest :=
      List.flatMap_cons
    have hkeys : ∀ qs, (extended d qs).properties.map Property.key =
        d.properties.map Property.key ++ qs.map Property.key := fun qs => List.map_append
    rw [hrest, hfiles, missingFrom_append, hkeys]

theorem nodeOf_splitFragments {file : FilePath} {state : Reading} {text : List Char}
    {d : Descriptor} (h : nodeOf file state (splitFragments (· == ';') text) = .ok d) :
    d.typeName = lineType state.defaultsType text ∧ d.properties = lineProperties text := by
  rw [lineType, lineProperties]
  generalize splitFragments (· == ';') text = fragments at h
  cases fragments with
  | nil => cases h
  | cons first rest =>
    rw [nodeOf] at h
    dsimp only
    by_cases hfirst : (findAssignment first).isNone = true
    · rw [if_pos hfirst] at h
      rw [if_pos hfirst, if_pos hfirst]
      dsimp only at h
      split at h
      · cases h
      · cases h
        exact ⟨rfl, rfl⟩
    · rw [if_neg hfirst] at h
      rw [if_neg hfirst, if_neg hfirst]
      dsimp only at h
      split at h
      · cases h
      · cases h
        exact ⟨rfl, rfl⟩

theorem take_eq (d : Descriptor) (names : List String) : d.take names =
    (d.properties.filter (fun p => p.key ∈ names.map folded),
      { d with properties := apartFrom (names.map folded) d.properties }) := by
  simp only [Descriptor.take, apartFrom, List.contains_eq_mem, decide_not]

/-- Once children have been taken from files, the properties that name them are gone. -/
theorem takeIncludes_eq (d : Descriptor) :
    (takeIncludes d).2 = { d with properties := withoutIncludes d.properties } := by
  have hkey : folded contentName ∉ childrenFileKeys := by decide +kernel
  have hget : (d.take childrenFileNames).2.get contentName =
      valueOf (folded contentName) d.properties := by
    rw [take_eq, Descriptor.get, valueOf_eq, ← childrenFileKeys, lastWith_apartFrom, if_neg hkey,
      valueOf_eq]
  rw [takeIncludes, withoutIncludes, takenKeys, takesContent, namesChildren]
  dsimp only
  rw [hget]
  split
  · rw [take_eq, take_eq]
    dsimp only
    rw [apartFrom_apartFrom]
    rfl
  · rw [take_eq]
    rfl

/-- **The properties of a node** are those that its line and its files give, less the ones that named
files with children, and in front of them the defaults of its type that are missing. -/
theorem properties_of_readNode {env : Surroundings} {file : FilePath} {state : Reading}
    {text : List Char} {d : Descriptor} (h : (readNode env file state text).2 = .ok d) :
    let type := lineType state.defaultsType text
    let given := withoutIncludes (givenProperties env.store file text)
    d.typeName = type ∧ d.properties =
      missingFrom (given.map Property.key) (state.defaults.entries type) ++ given := by
  intro type given
  unfold readNode at h
  cases hnode : nodeOf file state (splitFragments (· == ';') text) with
  | error fault => simp [hnode] at h
  | ok plain =>
    obtain ⟨htype, hplain⟩ := nodeOf_splitFragments hnode
    simp only [hnode, take_eq] at h
    rw [hplain] at h
    generalize hloaded : loadProperties env.store file
      { plain with properties := apartFrom (propertiesFileNames.map folded) (lineProperties text) }
      ((lineProperties text).filter fun p => p.key ∈ propertiesFileNames.map folded) = loading at h
    obtain ⟨log, fault | loaded⟩ := loading
    · cases h
    · have hloaded := loadProperties_eq_ok (congrArg Prod.snd hloaded)
      generalize hfull : loadChildren env.children file (takeIncludes loaded).2
        (takeIncludes loaded).1 = including at h
      obtain ⟨more, fault | full⟩ := including
      · simp [hfull] at h
      · simp only [hfull, Except.ok.injEq] at h
        have hfull := loadChildren_eq_ok (congrArg Prod.snd hfull)
        rw [takeIncludes_eq, hloaded] at hfull
        have hproperties : full.properties = given := by
          rw [hfull]
          rfl
        have htypeName : full.typeName = type := by
          rw [hfull]
          exact htype
        rw [← h, Defaults.apply, Descriptor.mergeDefaults, hproperties, htypeName]
        exact ⟨rfl, rfl⟩

/-! ## Precedence -/

/-- No property names a file with children. -/
def NamesNoChildren (ps : List Property) : Prop :=
  ∀ p ∈ ps, p.key ∉ childrenFileKeys ∧
    (p.key = folded contentName → ∀ content ∈ p.value, namesChildren content = false)

instance (ps : List Property) : Decidable (NamesNoChildren ps) :=
  inferInstanceAs (Decidable (∀ p ∈ ps, p.key ∉ childrenFileKeys ∧
    (p.key = folded contentName → ∀ content ∈ p.value, namesChildren content = false)))

theorem NamesNoChildren.subset {ps qs : List Property} (h : NamesNoChildren qs) (hsub : ps ⊆ qs) :
    NamesNoChildren ps :=
  fun p hp => h p (hsub hp)

theorem withoutIncludes_eq_self {ps : List Property} (h : NamesNoChildren ps) :
    withoutIncludes ps = ps := by
  have hcontent : takesContent ps = false := by
    rw [takesContent, valueOf_eq]
    cases hlast : lastWith (folded contentName) ps with
    | none => decide
    | some p =>
      have hmem : p ∈ ps := List.mem_reverse.1 (List.mem_of_find?_eq_some hlast)
      rw [Option.bind_some]
      cases hvalue : p.value with
      | none => decide
      | some content => exact (h p hmem).2 (key_of_lastWith hlast) content hvalue
  rw [withoutIncludes, takenKeys, hcontent]
  exact apartFrom_eq_self fun p hp => (h p hp).1

theorem givenProperties_subset (store : FileStore) (file : FilePath) (text : List Char) :
    givenProperties store file text ⊆
      lineProperties text ++ fileProperties store file (propertiesFiles text) := by
  rw [givenProperties, missingFrom_eq]
  intro p hp
  rcases List.mem_append.1 hp with hp | hp
  · exact List.mem_append_left _ (mem_apartFrom.1 hp).1
  · exact List.mem_append_right _ ((firstOfEach_sublist _).subset (mem_apartFrom.1 hp).1)

/-- **The properties of a node line**, where neither the line nor the files with properties that it
names take children from files. First come the defaults of the type of the node that the lines before
have declared, the last one of each key that stands nowhere after them, in the order in which the
keys were declared. Then come the properties of the line as they stand there, without those that name
files with properties. Then comes what these files assign, the first property of each key that the
line does not give. A name has the last value on the line, without one the first in the files,
without one the last default; a name alone on the line has no value. -/
theorem properties_of_nodeLine (env : Surroundings) (file : FilePath) (before : List (List Char))
    {line text : List Char}
    (hline : Line.classify (after env file .start before).defaultsType.isSome (trim line) =
      .node text)
    (hfault : (readLine env file (after env file .start before) line).fault = none)
    (hnames : NamesNoChildren
      (lineProperties text ++ fileProperties env.store file (propertiesFiles text))) :
    let state := after env file .start before
    let type := lineType state.defaultsType text
    let own := apartFrom propertiesFileKeys (lineProperties text)
    let files := fileProperties env.store file (propertiesFiles text)
    let declared := Defaults.added (defaultSteps none before) type
    let given := own ++ apartFrom (own.map Property.key) (firstOfEach files)
    ∃ d, (readLine env file state line).state.outline =
        state.outline.attach (indentation line) d ∧
      d.typeName = type ∧
      d.properties = apartFrom (given.map Property.key) (lastOfEach declared) ++ given ∧
      ∀ name, d.get name =
        (((lastWith (folded name) own).or (firstWith (folded name) files)).or
          (lastWith (folded name) declared)).bind (·.value) := by
  intro state type own files declared given
  obtain ⟨d, hnode, -, houtline⟩ := outline_of_node hline hfault
  obtain ⟨htype, hread⟩ := properties_of_readNode hnode
  have hgiven : withoutIncludes (givenProperties env.store file text) = given := by
    rw [withoutIncludes_eq_self (hnames.subset (givenProperties_subset _ _ _)), givenProperties,
      missingFrom_eq]
  have hproperties : d.properties =
      apartFrom (given.map Property.key) (lastOfEach declared) ++ given := by
    rw [hread, hgiven, entries_after, missingFrom_eq, firstOfEach_of_nodup (nodup_lastOfEach _)]
  refine ⟨d, houtline, htype, hproperties, fun name => ?_⟩
  rw [Descriptor.get, valueOf_eq, hproperties, lastWith_apartFrom_append, lastWith_lastOfEach,
    lastWith_append_apartFrom, lastWith_of_nodup (nodup_firstOfEach files), firstWith_firstOfEach]

/-- A file with properties, one of them twice. -/
def propertiesStore : FileStore where
  entries := [(["p.props"], .file "Bold=1\n# Font\nFont=f\nfont=g\nHeight=7".toUTF8)]
  workingDirectory := []

/-- A name alone on the line hides what the file and the defaults say. -/
theorem properties_of_nodeLine_propertiesStore :
    let env : Surroundings := ⟨propertiesStore, .ok, fun _ => .ok .absent⟩
    let file := FilePath.ofString "a.txt"
    let before := ["Control=BUTTON", "Width=10", "Text=x", "width=20", "Bold=0"].map String.toList
    let line := "Button;Text=a;Bold;LoadProps=p.props;TEXT=b".toList
    let effect := readLine env file (after env file .start before) line
    effect.fault = none ∧ ∃ d, effect.state.outline = Outline.empty.attach 0 d ∧
      d.properties = [⟨"width", some "20"⟩, ⟨"Text", some "a"⟩, ⟨"Bold", none⟩, ⟨"TEXT", some "b"⟩,
        ⟨"Font", some "f"⟩, ⟨"Height", some "7"⟩] ∧
      d.get "text" = some "b" ∧ d.get "bold" = none ∧ d.get "Font" = some "f" ∧
      d.get "WIDTH" = some "20" := by
  intro env file before line effect
  have hfault : effect.fault = none := by
    rw [← Option.isNone_iff_eq_none]
    decide +kernel
  have hline : Line.classify (after env file .start before).defaultsType.isSome (trim line) =
    .node line := by rfl
  have hown : lineProperties line = [⟨"Text", some "a"⟩, ⟨"Bold", none⟩,
      ⟨"LoadProps", some "p.props"⟩, ⟨"TEXT", some "b"⟩] := by
    decide +kernel
  have hfiles : fileProperties env.store file (propertiesFiles line) =
      [⟨"Bold", some "1"⟩, ⟨"Font", some "f"⟩, ⟨"font", some "g"⟩, ⟨"Height", some "7"⟩] := by
    decide +kernel
  have hdeclared : Defaults.added (defaultSteps none before)
      (lineType (after env file .start before).defaultsType line) =
        [⟨"Width", some "10"⟩, ⟨"Text", some "x"⟩, ⟨"width", some "20"⟩, ⟨"Bold", some "0"⟩] := by
    decide +kernel
  have hnames : NamesNoChildren
      (lineProperties line ++ fileProperties env.store file (propertiesFiles line)) := by
    rw [hown, hfiles]
    decide +kernel
  obtain ⟨d, houtline, -, hproperties, hget⟩ :=
    properties_of_nodeLine env file before hline hfault hnames
  rw [hown, hfiles, hdeclared] at hproperties hget
  refine ⟨hfault, d, houtline, hproperties.trans ?_, (hget _).trans ?_, (hget _).trans ?_,
    (hget _).trans ?_, (hget _).trans ?_⟩
  · decide +kernel
  · decide +kernel
  · decide +kernel
  · decide +kernel
  · decide +kernel

end TextFormat

end LayoutTree
