import LayoutTree.Proofs.Layout.Chains

/-!
# Transparent includes

What a file with children contributes to the node that includes it. A node that a line describes
has the roots of the files that it names as its children, one file after the other
(`children_of_readNode`). What a file says does not depend on the files being read around it, as
long as it opens none of these (`OpensNone.readFile_append`), and each node of a forest carries the
path of the file whose line describes it (`sources_of_rootsOf`).

* `include_transparent`: an include contributes the roots of the included file as a root file,
  whatever the including line, the files being read and the other includes of the line.
-/

namespace LayoutTree

open LayoutTree.Text LayoutTree.Layout

/-! ## Nodes of an outline -/

namespace Layout.Outline

/-- Every node without its parent, complete or open, has a property. -/
def All (P : Descriptor → Prop) (o : Outline) : Prop :=
  (∀ d ∈ o.roots, P d) ∧ ∀ top ∈ o.stack, P top.node

variable {P : Descriptor → Prop}

theorem all_closeFrom (hadopt : ∀ d child, P d → P child → P (adopt d (some child)))
    {indentation : Nat} {roots : List Descriptor} {closed : Option Descriptor}
    {stack : List OpenNode} (hroots : ∀ d ∈ roots, P d) (hclosed : ∀ d, closed = some d → P d)
    (hstack : ∀ top ∈ stack, P top.node) : (closeFrom indentation roots closed stack).All P := by
  induction stack generalizing closed with
  | nil =>
    refine ⟨fun d hd => ?_, by simp [closeFrom]⟩
    rcases List.mem_append.1 hd with hd | hd
    · exact hroots d hd
    · exact hclosed d (Option.mem_toList.1 hd)
  | cons top rest ih =>
    have hnode : P (adopt top.node closed) := by
      cases closed with
      | none =>
        rw [adopt_none]
        exact hstack top List.mem_cons_self
      | some child => exact hadopt _ _ (hstack top List.mem_cons_self) (hclosed child rfl)
    have hrest : ∀ other ∈ rest, P other.node := fun other h =>
      hstack other (List.mem_cons_of_mem _ h)
    rw [closeFrom]
    split
    · refine ⟨hroots, fun other hother => ?_⟩
      rcases List.mem_cons.1 hother with rfl | hother
      · exact hnode
      · exact hrest other hother
    · exact ih (fun d hd => Option.some.inj hd ▸ hnode) hrest

theorem All.attach (hadopt : ∀ d child, P d → P child → P (adopt d (some child))) {o : Outline}
    (h : o.All P) (indentation : Nat) {d : Descriptor} (hd : P d) :
    (o.attach indentation d).All P := by
  obtain ⟨hroots, hstack⟩ : (closeFrom indentation o.roots none o.stack).All P :=
    all_closeFrom hadopt h.1 (fun _ hnone => by cases hnone) h.2
  refine ⟨hroots, fun top htop => ?_⟩
  rcases List.mem_cons.1 htop with rfl | htop
  · exact hd
  · exact hstack top htop

theorem All.forest (hadopt : ∀ d child, P d → P child → P (adopt d (some child))) {o : Outline}
    (h : o.All P) : ∀ d ∈ o.forest, P d :=
  (all_closeFrom hadopt h.1 (fun _ hnone => by cases hnone) h.2).1

end Layout.Outline

namespace TextFormat

/-! ## What a line includes -/

/-- The roots of an included file. -/
def Inclusion.forest : Inclusion → List Descriptor
  | .nodes _ forest => forest
  | _ => []

/-- What one include contributes to the children of its node. -/
def contribution (read : FilePath → Except LineFault Inclusion) (file : FilePath)
    (entry : Property) : List Descriptor :=
  match (includePath? file entry.value).map read with
  | some (.ok inclusion) => inclusion.forest
  | _ => []

theorem askedFrom_subset (read : FilePath → Except LineFault Inclusion) (file : FilePath)
    (es : List Property) :
    askedFrom read file es ⊆ es.filterMap fun entry => includePath? file entry.value := by
  induction es with
  | nil => exact List.Subset.refl _
  | cons entry rest ih =>
    rw [askedFrom, List.filterMap_cons]
    cases includePath? file entry.value with
    | none => exact ih
    | some p =>
      refine List.cons_subset_cons p ?_
      cases read p with
      | error fault => exact List.nil_subset _
      | ok inclusion => exact ih

theorem askedByLine_subset (env : Surroundings) (file : FilePath) (state : Reading)
    (line : List Char) : askedByLine env file state line ⊆ namedByLine env file state line := by
  rw [askedByLine, namedByLine]
  cases Line.classify state.defaultsType.isSome (trim line) with
  | node text =>
    dsimp only
    split
    · exact List.nil_subset _
    · exact askedFrom_subset _ _ _
  | _ => exact List.Subset.refl _

section Line

variable {env : Surroundings} {read : FilePath → Except LineFault Inclusion} {file : FilePath}
  {state : Reading}

theorem loadChildren_cons {entry : Property} {p : FilePath}
    (hpath : includePath? file entry.value = some p) {inclusion : Inclusion}
    (hread : read p = .ok inclusion) (d : Descriptor) (rest : List Property) :
    (loadChildren read file d (entry :: rest)).2 =
      (loadChildren read file { d with children := d.children ++ inclusion.forest } rest).2 := by
  cases d
  rw [loadChildren]
  cases inclusion with
  | absent => simp [hpath, hread, Inclusion.forest]
  | faulty e => simp [hpath, hread, Inclusion.forest]
  | nodes log forest => simp [hpath, hread, Inclusion.forest]

/-- The includes of a line only add children. -/
theorem loadChildren_eq_ok {es : List Property} {d d' : Descriptor}
    (h : (loadChildren read file d es).2 = .ok d') :
    d' = { d with children := d.children ++ es.flatMap (contribution read file) } := by
  induction es generalizing d with
  | nil =>
    obtain rfl : d = d' := by simpa [loadChildren] using h
    cases d
    simp
  | cons entry rest ih =>
    rw [List.flatMap_cons]
    cases hpath : includePath? file entry.value with
    | none =>
      rw [loadChildren, hpath] at h
      simp [ih h, contribution, hpath]
    | some p =>
      cases hread : read p with
      | error fault =>
        rw [loadChildren] at h
        simp [hpath, hread] at h
      | ok inclusion =>
        rw [loadChildren_cons hpath hread] at h
        simp [ih h, contribution, hpath, hread, List.append_assoc]

theorem exists_of_mem_contribution {entry : Property} {d : Descriptor}
    (h : d ∈ contribution read file entry) :
    ∃ p log forest, includePath? file entry.value = some p ∧
      read p = .ok (.nodes log forest) ∧ d ∈ forest := by
  rw [contribution] at h
  cases hpath : includePath? file entry.value with
  | none => simp [hpath] at h
  | some p =>
    cases hread : read p with
    | error fault => simp [hpath, hread] at h
    | ok inclusion =>
      cases inclusion with
      | absent => simp [hpath, hread, Inclusion.forest] at h
      | faulty e => simp [hpath, hread, Inclusion.forest] at h
      | nodes log forest =>
        have hmem : d ∈ forest := by simpa [hpath, hread, Inclusion.forest] using h
        exact ⟨p, log, forest, rfl, hread, hmem⟩

/-- A line that is not skipped asks for all the files that it names. -/
theorem mem_askedFrom_of_ok {es : List Property} {d d' : Descriptor}
    (h : (loadChildren read file d es).2 = .ok d') {p : FilePath}
    (hp : p ∈ es.filterMap fun entry => includePath? file entry.value) :
    p ∈ askedFrom read file es := by
  induction es generalizing d with
  | nil => cases hp
  | cons entry rest ih =>
    rw [askedFrom]
    cases hpath : includePath? file entry.value with
    | none =>
      rw [loadChildren, hpath] at h
      exact ih h (by simpa [hpath] using hp)
    | some q =>
      cases hread : read q with
      | error fault =>
        rw [loadChildren] at h
        simp [hpath, hread] at h
      | ok inclusion =>
        rw [loadChildren_cons hpath hread] at h
        rw [List.filterMap_cons, hpath] at hp
        dsimp only
        rcases List.mem_cons.1 hp with rfl | hp
        · exact List.mem_cons_self
        · rw [hread]
          exact List.mem_cons_of_mem _ (ih h hp)

theorem children_addMissing (d : Descriptor) (content : List (List Char)) :
    (addMissing d content).children = d.children ∧ (addMissing d content).source = d.source := by
  induction content generalizing d with
  | nil => exact ⟨rfl, rfl⟩
  | cons line rest ih =>
    rw [addMissing, List.foldl_cons, ← addMissing]
    dsimp only
    split
    · exact ih d
    · split
      · exact ih _
      · exact ih d

/-- A file with properties brings no children. -/
theorem children_loadProperties {store : FileStore} {es : List Property} {d d' : Descriptor}
    (h : (loadProperties store file d es).2 = .ok d') :
    d'.children = d.children ∧ d'.source = d.source := by
  induction es generalizing d with
  | nil =>
    obtain rfl : d = d' := by simpa [loadProperties] using h
    exact ⟨rfl, rfl⟩
  | cons entry rest ih =>
    rw [loadProperties] at h
    split at h
    · exact ih h
    · split at h
      · split at h
        · exact ih h
        · cases h
      · split at h
        · cases h
        · next s _ =>
          have hmissing := children_addMissing d (lines s)
          exact ⟨(ih h).1.trans hmissing.1, (ih h).2.trans hmissing.2⟩

theorem takeIncludes_snd (d : Descriptor) :
    (takeIncludes d).2.children = d.children ∧ (takeIncludes d).2.source = d.source := by
  rw [takeIncludes]
  dsimp only
  split
  · exact ⟨rfl, rfl⟩
  · exact ⟨rfl, rfl⟩

/-- A node line gives a node with a type, without children and with the path of the file. -/
theorem nodeOf_eq_ok {fragments : List (List Char)} {d : Descriptor}
    (h : nodeOf file state fragments = .ok d) :
    d.typeName ≠ "" ∧ d.children = [] ∧ d.source = some file.text := by
  cases fragments with
  | nil => cases h
  | cons first rest =>
    rw [nodeOf] at h
    generalize (if (findAssignment first).isNone = true
      then (String.ofList (stripQuotes first), rest)
      else (state.defaultsType.getD "", first :: rest)) = parts at h
    obtain ⟨type, fragments⟩ := parts
    dsimp only at h
    split at h
    · cases h
    · next htype =>
      cases h
      exact ⟨by simpa using htype, rfl, rfl⟩

/-- **The node of a line has the roots of the files that the line names as its children.** It
carries the path of the file being read, and all the files that the line names were asked for. -/
theorem children_of_readNode {text : List Char} {d : Descriptor}
    (h : (readNode env file state text).2 = .ok d) :
    d.children = (includesOf env.store file state text).flatMap (contribution env.children file) ∧
      d.source = some file.text ∧
      ∀ p ∈ (includesOf env.store file state text).filterMap
          fun entry => includePath? file entry.value,
        p ∈ askedFrom env.children file (includesOf env.store file state text) := by
  unfold readNode at h
  unfold includesOf
  cases hnode : nodeOf file state (splitFragments (· == ';') text) with
  | error fault => simp [hnode] at h
  | ok plain =>
    simp only [hnode] at h ⊢
    rcases hloaded : loadProperties env.store file (plain.take propertiesFileNames).2
      (plain.take propertiesFileNames).1 with ⟨log, fault | loaded⟩
    · simp [hloaded] at h
    · simp only [hloaded] at h ⊢
      rcases hmore : loadChildren env.children file (takeIncludes loaded).2 (takeIncludes loaded).1
        with ⟨more, fault | full⟩
      · simp [hmore] at h
      · simp only [hmore, Except.ok.injEq] at h
        have hfull := congrArg Prod.snd hmore
        obtain ⟨-, hchildren, hsource⟩ := nodeOf_eq_ok hnode
        have hproperties := children_loadProperties (congrArg Prod.snd hloaded)
        have hincludes := takeIncludes_snd loaded
        refine ⟨?_, ?_, fun p hp => mem_askedFrom_of_ok hfull hp⟩
        · rw [← h]
          change full.children = _
          rw [loadChildren_eq_ok hfull, hincludes.1, hproperties.1]
          change plain.children ++ _ = _
          rw [hchildren, List.nil_append]
        · rw [← h]
          change full.source = _
          rw [loadChildren_eq_ok hfull, hincludes.2, hproperties.2]
          exact hsource

/-- What a node line without a fault does to the outline. -/
theorem outline_of_node {line text : List Char}
    (hline : Line.classify state.defaultsType.isSome (trim line) = .node text)
    (hfault : (readLine env file state line).fault = none) :
    ∃ d, (readNode env file state text).2 = .ok d ∧
      askedByLine env file state line =
        askedFrom env.children file (includesOf env.store file state text) ∧
      (readLine env file state line).state.outline = state.outline.attach (indentation line) d := by
  simp only [readLine, askedByLine, hline, readNodeLine] at hfault ⊢
  by_cases hskipped : state.skippedAt.any (· < indentation line) = true
  · simp [hskipped] at hfault
  · rcases hnode : readNode env file state text with ⟨log, fault | d⟩
    · simp [hskipped, hnode] at hfault
    · exact ⟨d, rfl, if_neg hskipped, by rw [if_neg hskipped]⟩

/-- A line without a node, or with a fault, leaves the outline as it is. -/
theorem outline_readLine (env : Surroundings) (file : FilePath) (state : Reading)
    (line : List Char) :
    (readLine env file state line).state.outline = state.outline ∨
      (readLine env file state line).fault = none ∧
        ∃ text, Line.classify state.defaultsType.isSome (trim line) = .node text := by
  unfold readLine
  cases Line.classify state.defaultsType.isSome (trim line) with
  | ignored => exact .inl rfl
  | group name =>
    dsimp only
    cases env.normalize (String.ofList name) with
    | error message => exact .inl rfl
    | ok name => exact .inl rfl
  | defaultsOf type =>
    dsimp only
    split
    · exact .inl rfl
    · exact .inl rfl
  | default entry =>
    dsimp only
    split
    · exact .inl rfl
    · exact .inl rfl
  | node text =>
    dsimp only [readNodeLine]
    split
    · exact .inl rfl
    · split
      · exact .inl rfl
      · exact .inr ⟨rfl, text, rfl⟩

end Line

/-! ## The files of the nodes -/

/-- A node that a line of the file with the given path describes; the nodes below it carry paths as
`Path` says. -/
def From (Path : Option String → Prop) (path : String) (d : Descriptor) : Prop :=
  d.source = some path ∧ ∀ b ∈ Descriptor.walkAll d.children, Path b.source

section Sources

variable {Path : Option String → Prop} {env : Surroundings} {file : FilePath}

theorem From.adopt {path : String} (hpath : Path (some path)) {d child : Descriptor}
    (hd : From Path path d) (hchild : From Path path child) :
    From Path path (Outline.adopt d (some child)) := by
  refine ⟨hd.1, fun b hb => ?_⟩
  have hb' : b ∈ Descriptor.walkAll (d.children ++ [child]) := hb
  simp only [Descriptor.walkAll_eq_flatMap, List.flatMap_append, List.mem_append,
    List.flatMap_singleton, Descriptor.walk_eq child, List.mem_cons] at hb'
  rcases hb' with hb' | rfl | hb'
  · exact hd.2 b (by rwa [Descriptor.walkAll_eq_flatMap])
  · exact hchild.1 ▸ hpath
  · exact hchild.2 b (by rwa [Descriptor.walkAll_eq_flatMap])

/-- If the files that lines ask for hold nodes with paths as `Path` says, then so do the nodes that
the lines place. -/
theorem all_from_readLines (hfile : Path (some file.text)) {ls : List (List Char)} {state : Reading}
    (hasked : ∀ p ∈ askedByLines env file state ls, ∀ log forest,
      env.children p = .ok (.nodes log forest) → ∀ b ∈ Descriptor.walkAll forest, Path b.source)
    (hstate : state.outline.All (From Path file.text)) :
    (after env file state ls).outline.All (From Path file.text) := by
  induction ls generalizing state with
  | nil => exact hstate
  | cons line rest ih =>
    rw [after_cons]
    refine ih (fun p hp => hasked p (List.mem_append_right _ hp)) ?_
    rcases outline_readLine env file state line with hsame | ⟨hfault, text, hkind⟩
    · rw [hsame]
      exact hstate
    · obtain ⟨d, hnode, hline, houtline⟩ := outline_of_node hkind hfault
      obtain ⟨hchildren, hsource, hall⟩ := children_of_readNode hnode
      rw [houtline]
      refine hstate.attach (fun _ _ => From.adopt hfile) _ ⟨hsource, fun b hb => ?_⟩
      rw [hchildren, Descriptor.walkAll_eq_flatMap] at hb
      obtain ⟨root, hroot, hb⟩ := List.mem_flatMap.1 hb
      obtain ⟨entry, hentry, hroot⟩ := List.mem_flatMap.1 hroot
      obtain ⟨p, log, forest, hpath, hread, hmem⟩ := exists_of_mem_contribution hroot
      have hnamed := hall p (List.mem_filterMap.2 ⟨entry, hentry, hpath⟩)
      refine hasked p (List.mem_append_left _ (hline ▸ hnamed)) log forest hread b ?_
      rw [Descriptor.walkAll_eq_flatMap]
      exact List.mem_flatMap.2 ⟨root, hmem, hb⟩

end Sources

/-! ## Files read below other files -/

section Below

variable (store : FileStore) (normalize : String → Except String String)

/-- Reading `p` as a root file opens none of the files at `active`, neither itself nor below. A file
that is refused on the way is one that is open. -/
def OpensNone (p : FilePath) (active : List Location) : Prop :=
  ∀ v outer, Nested store normalize p v outer → ∀ loc ∈ v.active, loc ∉ active

/-- The roots of a root file, none if it cannot be read. -/
def rootsOf (p : FilePath) : List Descriptor :=
  (parse store normalize p).2.toOption.getD []

variable {store normalize} {p : FilePath} {active : List Location}

/-- **Readings do not depend on the files around them**: a reading that a root file starts is the
same while other files are being read, if it opens none of these. -/
theorem OpensNone.readFile_append (hopens : OpensNone store normalize p active) {v : Visit}
    {outer : List Visit} (h : Nested store normalize p v outer) {content : List Char}
    (hcontent : Source.decode v.file v.bytes = .ok content) :
    readFile store normalize (v.active ++ active) v.file content =
      readFile store normalize v.active v.file content := by
  -- The recursion is that of reading: below a file, fewer files are left that are not being read.
  induction hn : remaining store v.active using Nat.strongRecOn generalizing v outer content with
  | ind n ih =>
    have hchildren : ∀ q ∈ askedByLines (v.surroundings store normalize) v.file .start
          (lines content),
        (v.surroundings store normalize).children q =
          inclusionOf store (readFile store normalize) (v.active ++ active) q := by
      intro q hq
      change inclusionOf store (readFile store normalize) v.active q = _
      rw [inclusionOf, inclusionOf]
      cases hr : store.read q with
      | error reason => rfl
      | ok result =>
        obtain ⟨loc, bytes⟩ := result
        by_cases hactive : loc ∈ v.active
        · simp [hactive]
        · have hw : Visits store normalize v ⟨loc :: v.active, q, bytes⟩ :=
            ⟨content, hcontent, q, hq, loc, bytes, hr, hactive, rfl⟩
          have hnested := h.visit hw
          have hloc := hopens _ _ hnested loc List.mem_cons_self
          cases hs : Source.decode q bytes with
          | error e => simp [hactive, hloc, hs]
          | ok s =>
            have hlt := remaining_lt (FileStore.mem_locations_of_read hr) hactive
            have hbelow := ih _ (hn ▸ hlt) hnested hs rfl
            simpa [hactive, hloc, hs] using congrArg (fun r => Inclusion.nodes r.1 r.2) hbelow.symm
    have hlines := readLines_congr hchildren 0
    rw [readFile_eq, readFile_eq, readWith, readWith]
    exact congrArg (fun r : Reading × Log => (r.2, r.1.outline.forest)) hlines.symm

theorem inclusionOf_eq_nodes {read : List Location → FilePath → List Char → Log × List Descriptor}
    {log : Log} {forest : List Descriptor}
    (h : inclusionOf store read active p = .ok (.nodes log forest)) :
    ∃ loc bytes s, store.read p = .ok (loc, bytes) ∧ loc ∉ active ∧ Source.decode p bytes = .ok s ∧
      read (loc :: active) p s = (log, forest) := by
  rw [inclusionOf] at h
  cases hr : store.read p with
  | error reason =>
    simp only [hr] at h
    split at h
    · cases h
    · cases h
  | ok result =>
    obtain ⟨loc, bytes⟩ := result
    by_cases hactive : loc ∈ active
    · simp [hr, hactive] at h
    · cases hs : Source.decode p bytes with
      | error e => simp [hr, hactive, hs] at h
      | ok s =>
        simp only [hr, hs, List.contains_iff_mem, hactive, if_false, Except.ok.injEq,
          Inclusion.nodes.injEq] at h
        exact ⟨loc, bytes, s, rfl, hactive, hs, Prod.ext h.1 h.2⟩

/-- Including a file that opens none of the files being read yields the file as a root file. -/
theorem OpensNone.inclusionOf_eq (hopens : OpensNone store normalize p active) {loc : Location}
    {bytes : ByteArray} (hread : store.read p = .ok (loc, bytes)) :
    ∃ inclusion, inclusionOf store (readFile store normalize) active p = .ok inclusion ∧
      inclusion.forest = rootsOf store normalize p := by
  have hroot : Nested store normalize p ⟨[loc], p, bytes⟩ [] := .root hread
  have hloc := hopens _ _ hroot loc List.mem_cons_self
  simp only [inclusionOf, rootsOf, parse, Source.read, hread, List.contains_iff_mem, hloc, if_false]
  cases hs : Source.decode p bytes with
  | error e => exact ⟨_, rfl, rfl⟩
  | ok s => exact ⟨_, rfl, congrArg Prod.snd (hopens.readFile_append hroot hs)⟩

/-- **Nodes carry the file that they come from**: a reading gives its path to the nodes of its own
lines, and the other nodes carry the paths of readings below. -/
theorem Nested.from_readFile {v : Visit} {outer : List Visit} (h : Nested store normalize p v outer)
    {content : List Char} (hcontent : Source.decode v.file v.bytes = .ok content) :
    ∀ d ∈ (readFile store normalize v.active v.file content).2,
      From (fun path => ∃ w outer, Nested store normalize p w outer ∧ path = some w.file.text)
        v.file.text d := by
  induction hn : remaining store v.active using Nat.strongRecOn generalizing v outer content with
  | ind n ih =>
    rw [readFile_eq_after]
    have hadopt := @From.adopt
      (fun path => ∃ w outer, Nested store normalize p w outer ∧ path = some w.file.text)
      v.file.text ⟨v, outer, h, rfl⟩
    have hstart : Outline.empty.All (From (fun path => ∃ w outer,
        Nested store normalize p w outer ∧ path = some w.file.text) v.file.text) :=
      ⟨fun _ h => (List.not_mem_nil h).elim, fun _ h => (List.not_mem_nil h).elim⟩
    refine Outline.All.forest (fun _ _ => hadopt) (all_from_readLines ⟨v, outer, h, rfl⟩ ?_ hstart)
    intro q hq log forest hforest b hb
    obtain ⟨loc, bytes, s, hr, hactive, hs, hbelow⟩ := inclusionOf_eq_nodes hforest
    have hnested := h.visit ⟨content, hcontent, q, hq, loc, bytes, hr, hactive, rfl⟩
    have hlt := remaining_lt (FileStore.mem_locations_of_read hr) hactive
    rw [Descriptor.walkAll_eq_flatMap] at hb
    obtain ⟨root, hroot, hb⟩ := List.mem_flatMap.1 hb
    have hfrom := ih _ (hn ▸ hlt) hnested hs rfl root (hbelow ▸ hroot)
    rw [Descriptor.walk_eq] at hb
    rcases List.mem_cons.1 hb with rfl | hb
    · exact ⟨_, _, hnested, hfrom.1⟩
    · exact hfrom.2 b hb

/-- The roots of a root file carry its path, the nodes below them the paths of files read below. -/
theorem sources_of_rootsOf {loc : Location} {bytes : ByteArray}
    (hread : store.read p = .ok (loc, bytes)) :
    ∀ d ∈ rootsOf store normalize p,
      From (fun path => ∃ w outer, Nested store normalize p w outer ∧ path = some w.file.text)
        p.text d := by
  have hroot : Nested store normalize p ⟨[loc], p, bytes⟩ [] := .root hread
  simp only [rootsOf, parse, Source.read, hread]
  cases hs : Source.decode p bytes with
  | error e => exact fun d hd => by cases hd
  | ok s => exact hroot.from_readFile hs

/-! ## Transparency -/

/-- **Includes are transparent.** The files at `active` are being read when a node line of a file
names the file at `p`, which is there and opens none of them. Then the file is not refused, and if
the line stands for a node, this node has the roots of `p` as a root file among its children,
between what the includes of the line before and after it contribute. The roots carry the path `p`,
and the nodes below them the paths of files read below `p`. -/
theorem include_transparent (store : FileStore) (normalize : String → Except String String)
    (active : List Location) (file : FilePath) (state : Reading) (line : List Char)
    {text : List Char} (hline : Line.classify state.defaultsType.isSome (trim line) = .node text)
    {before rest : List Property} {entry : Property}
    (hentry : includesOf store file state text = before ++ entry :: rest)
    {p : FilePath} (hpath : includePath? file entry.value = some p)
    {found : Location × ByteArray} (hread : store.read p = .ok found)
    (hopens : OpensNone store normalize p active) :
    let env := surroundings store normalize (readFile store normalize) active
    let others := fun es : List Property => es.flatMap (contribution env.children file)
    (∃ inclusion, env.children p = .ok inclusion) ∧
      ((readLine env file state line).fault = none →
        ∃ d, (readLine env file state line).state.outline =
            state.outline.attach (indentation line) d ∧
          d.children = others before ++ rootsOf store normalize p ++ others rest) ∧
      ∀ d ∈ rootsOf store normalize p, d.source = some p.text ∧
        ∀ b ∈ Descriptor.walkAll d.children,
          ∃ w outer, Nested store normalize p w outer ∧ b.source = some w.file.text := by
  intro env others
  obtain ⟨inclusion, hinclusion, hforest⟩ := hopens.inclusionOf_eq hread
  refine ⟨⟨inclusion, hinclusion⟩, fun hfault => ?_, sources_of_rootsOf hread⟩
  obtain ⟨d, hnode, -, houtline⟩ := outline_of_node hline hfault
  obtain ⟨hchildren, -⟩ := children_of_readNode hnode
  have hroots : contribution env.children file entry = rootsOf store normalize p := by
    have hchild : env.children p = .ok inclusion := hinclusion
    simp [contribution, hpath, hchild, hforest]
  have hentry' : includesOf env.store file state text = before ++ entry :: rest := hentry
  refine ⟨d, houtline, ?_⟩
  rw [hchildren, hentry', List.flatMap_append, List.flatMap_cons, hroots, List.append_assoc]

end Below

/-- A file that is included by one and includes another. -/
def nestedStore : FileStore where
  entries := [
    (["main.txt"], .file "Panel;Children=part.txt;Children=part.txt".toUTF8),
    (["part.txt"], .file "Box;Children=leaf.txt".toUTF8),
    (["leaf.txt"], .file "Label\nButton".toUTF8)]
  workingDirectory := []

/-- The reading of `part.txt` as a root file. -/
def partVisit : Visit := ⟨[["part.txt"]], .ofString "part.txt", "Box;Children=leaf.txt".toUTF8⟩

/-- The reading of `leaf.txt` for the line of `part.txt`. -/
def leafVisit : Visit :=
  ⟨[["leaf.txt"], ["part.txt"]], .ofString "leaf.txt", "Label\nButton".toUTF8⟩

theorem visits_partVisit {w : Visit} (h : Visits nestedStore .ok partVisit w) : w = leafVisit := by
  obtain ⟨content, hcontent, p, hp, loc, bytes, hr, -, rfl⟩ := h
  obtain rfl := Except.ok.inj ((Source.decode_toUTF8 _ "Box;Children=leaf.txt").symm.trans hcontent)
  have hnamed : namedByLine (partVisit.surroundings nestedStore .ok) partVisit.file .start
    "Box;Children=leaf.txt".toList = [.ofString "leaf.txt"] := by rfl
  rcases List.mem_append.1 hp with hp | hp
  · obtain rfl := List.mem_singleton.1 (hnamed ▸ askedByLine_subset _ _ _ _ hp)
    cases hr.symm.trans (by rfl : nestedStore.read (.ofString "leaf.txt") =
      .ok (["leaf.txt"], "Label\nButton".toUTF8))
    rfl
  · cases hp

theorem not_visits_leafVisit {w : Visit} : ¬ Visits nestedStore .ok leafVisit w := by
  rintro ⟨content, hcontent, p, hp, -⟩
  obtain rfl := Except.ok.inj ((Source.decode_toUTF8 _ "Label\nButton").symm.trans hcontent)
  have hfirst : namedByLine (leafVisit.surroundings nestedStore .ok) leafVisit.file .start
    "Label".toList = [] := by rfl
  have hsecond : namedByLine (leafVisit.surroundings nestedStore .ok) leafVisit.file
    (readLine (leafVisit.surroundings nestedStore .ok) leafVisit.file .start "Label".toList).state
    "Button".toList = [] := by rfl
  rcases List.mem_append.1 hp with hp | hp
  · cases hfirst ▸ askedByLine_subset _ _ _ _ hp
  · rcases List.mem_append.1 hp with hp | hp
    · cases hsecond ▸ askedByLine_subset _ _ _ _ hp
    · cases hp

theorem opensNone_nestedStore :
    OpensNone nestedStore .ok (.ofString "part.txt") [["main.txt"]] := by
  suffices h : ∀ v outer, Nested nestedStore .ok (.ofString "part.txt") v outer →
      v = partVisit ∨ v = leafVisit by
    intro v outer hv loc hloc
    rcases h v outer hv with rfl | rfl
    · rw [List.mem_singleton.1 hloc]
      decide
    · have hloc : loc = ["leaf.txt"] ∨ loc = ["part.txt"] := by simpa [leafVisit] using hloc
      rcases hloc with rfl | rfl
      · decide
      · decide
  intro v outer hv
  induction hv with
  | root h =>
    cases h.symm.trans (by rfl : nestedStore.read (.ofString "part.txt") =
      .ok (["part.txt"], "Box;Children=leaf.txt".toUTF8))
    exact .inl rfl
  | visit h hw ih =>
    rcases ih with rfl | rfl
    · exact .inr (visits_partVisit hw)
    · exact absurd hw not_visits_leafVisit

/-- The second of two includes of one file, in a group and after the defaults of a type. -/
theorem include_transparent_nestedStore :
    let env := surroundings nestedStore .ok (readFile nestedStore .ok) [["main.txt"]]
    let state : Reading := { Reading.start with defaultsType := some "Label", group := some "Side" }
    let line := "Panel;Children=part.txt;Children=part.txt".toList
    let effect := readLine env (.ofString "main.txt") state line
    effect.fault = none ∧
      ∃ d, effect.state.outline = state.outline.attach 0 d ∧
        d.children =
          contribution env.children (.ofString "main.txt") ⟨"Children", some "part.txt"⟩ ++
            rootsOf nestedStore .ok (.ofString "part.txt") := by
  intro env state line effect
  have hline : Line.classify state.defaultsType.isSome (trim line) = .node line := by rfl
  have hentry : includesOf nestedStore (.ofString "main.txt") state line =
    [⟨"Children", some "part.txt"⟩] ++ ⟨"Children", some "part.txt"⟩ :: [] := by rfl
  have hpath : includePath? (.ofString "main.txt") (some "part.txt") =
    some (.ofString "part.txt") := by rfl
  have hfile : nestedStore.read (.ofString "part.txt") =
    .ok (["part.txt"], "Box;Children=leaf.txt".toUTF8) := by rfl
  obtain ⟨⟨inclusion, hread⟩, hchildren, -⟩ := include_transparent nestedStore .ok [["main.txt"]]
    (.ofString "main.txt") state line hline hentry hpath hfile opensNone_nestedStore
  have hnamed : namedByLine env (.ofString "main.txt") state line =
    [.ofString "part.txt", .ofString "part.txt"] := by rfl
  have hasked : ∀ p ∈ askedByLine env (.ofString "main.txt") state line,
      env.children p = .ok inclusion := by
    intro p hp
    have hp := askedByLine_subset _ _ _ _ hp
    rw [hnamed] at hp
    obtain rfl : p = .ofString "part.txt" := by simpa using hp
    exact hread
  have hfault : effect.fault = none := by
    have heffect : effect = readLine { env with children := fun _ => .ok inclusion }
      (.ofString "main.txt") state line := readLine_congr hasked
    rw [heffect]
    cases inclusion with
    | absent => rfl
    | faulty e => rfl
    | nodes log forest => rfl
  obtain ⟨d, houtline, hd⟩ := hchildren hfault
  exact ⟨hfault, d, houtline, by simpa using hd⟩

end TextFormat

end LayoutTree
