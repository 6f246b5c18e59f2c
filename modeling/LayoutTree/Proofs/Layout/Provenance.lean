import LayoutTree.Proofs.Layout.Transparency

/-!
# The lines that nodes come from

Each node of a forest stands for a line. An outline holds the nodes that were attached to it with
the nodes below them, in the order in which they were attached (`Outline.nodes_attach`), whatever
their indentation. So the nodes of a reading are those that its lines place, each with the nodes
of the files that the line takes children from (`Visit.mem_nodes`).

* `mem_nodes_iff`: the nodes of the forest of a root file, apart from their children, are those
  placed by the lines of the readings that contribute to it.
-/

namespace LayoutTree

open LayoutTree.Text LayoutTree.Layout

theorem exists_split_cons {α : Type} {a : α} {l : List α} {P : List α → α → List α → Prop} :
    (∃ before x rest, a :: l = before ++ x :: rest ∧ P before x rest) ↔
      P [] a l ∨ ∃ before x rest, l = before ++ x :: rest ∧ P (a :: before) x rest := by
  constructor
  · rintro ⟨_ | ⟨y, before⟩, x, rest, h, hP⟩
    · obtain ⟨rfl, rfl⟩ := List.cons.inj h
      exact .inl hP
    · obtain ⟨rfl, rfl⟩ := List.cons.inj h
      exact .inr ⟨before, x, rest, rfl, hP⟩
  · rintro (hP | ⟨before, x, rest, rfl, hP⟩)
    · exact ⟨[], a, l, rfl, hP⟩
    · exact ⟨a :: before, x, rest, rfl, hP⟩

/-! ## Nodes in the order of lines -/

namespace Descriptor

/-- A node without the nodes below it. -/
def alone (d : Descriptor) : Descriptor := { d with children := [] }

/-- A node and the nodes below it, each without the nodes below. -/
def nodes (d : Descriptor) : List Descriptor := d.walk.map alone

theorem nodes_eq (d : Descriptor) : d.nodes = d.alone :: d.children.flatMap nodes := by
  rw [nodes, walk_eq, walkAll_eq_flatMap, List.map_cons, List.map_flatMap]
  rfl

end Descriptor

namespace Layout.Outline

/-- The nodes of an outline, in the order in which they were attached. -/
def nodes (o : Outline) : List Descriptor :=
  o.roots.flatMap Descriptor.nodes ++ o.stack.reverse.flatMap fun top => top.node.nodes

theorem nodes_adopt (d : Descriptor) (child : Option Descriptor) :
    (adopt d child).nodes = d.nodes ++ child.toList.flatMap Descriptor.nodes := by
  rw [Descriptor.nodes_eq, Descriptor.nodes_eq d, adopt, List.flatMap_append]
  rfl

theorem nodes_closeFrom (indentation : Nat) (roots : List Descriptor) (closed : Option Descriptor)
    (stack : List OpenNode) : (closeFrom indentation roots closed stack).nodes =
      nodes ⟨roots, stack⟩ ++ closed.toList.flatMap Descriptor.nodes := by
  induction stack generalizing closed with
  | nil => simp [closeFrom, nodes]
  | cons top rest ih =>
    rw [closeFrom]
    split
    · simp [nodes, nodes_adopt]
    · rw [ih]
      simp [nodes, nodes_adopt]

/-- A node is attached after all others. -/
theorem nodes_attach (o : Outline) (indentation : Nat) (d : Descriptor) :
    (o.attach indentation d).nodes = o.nodes ++ d.nodes := by
  have hclosed := nodes_closeFrom indentation o.roots none o.stack
  rw [Option.toList_none, List.flatMap_nil, List.append_nil] at hclosed
  change _ = nodes ⟨o.roots, o.stack⟩ ++ _
  rw [← hclosed, attach, nodes, nodes, List.reverse_cons, List.flatMap_append, List.append_assoc,
    List.flatMap_singleton]

theorem nodes_forest (o : Outline) : o.forest.flatMap Descriptor.nodes = o.nodes := by
  have hclosed := nodes_closeFrom 0 o.roots none o.stack
  rw [Option.toList_none, List.flatMap_nil, List.append_nil, nodes, stack_closeFrom_zero,
    List.reverse_nil, List.flatMap_nil, List.append_nil] at hclosed
  exact hclosed

end Layout.Outline

namespace TextFormat

/-! ## The nodes that lines place -/

/-- A line is a node line with this text, has no fault, and stands for this node. -/
structure Places (env : Surroundings) (file : FilePath) (state : Reading) (line text : List Char)
    (d : Descriptor) : Prop where
  kind : Line.classify state.defaultsType.isSome (trim line) = .node text
  fault : (readLine env file state line).fault = none
  node : (readNode env file state text).2 = .ok d

section Lines

variable {env : Surroundings} {file : FilePath} {state : Reading}

theorem nodes_readLine {line text : List Char} {d : Descriptor}
    (h : Places env file state line text d) :
    (readLine env file state line).state.outline.nodes = state.outline.nodes ++ d.nodes := by
  obtain ⟨d', hnode, -, houtline⟩ := outline_of_node h.kind h.fault
  obtain rfl : d' = d := Except.ok.inj (hnode.symm.trans h.node)
  rw [houtline, Outline.nodes_attach]

theorem outline_readLine_of_not_places {line : List Char}
    (h : ¬ ∃ text d, Places env file state line text d) :
    (readLine env file state line).state.outline = state.outline := by
  refine (outline_readLine env file state line).resolve_right ?_
  rintro ⟨hfault, text, hkind⟩
  obtain ⟨d, hnode, -⟩ := outline_of_node hkind hfault
  exact h ⟨text, d, hkind, hfault, hnode⟩

/-- The nodes after some lines are those before and the ones that the lines place, with the nodes
below them. -/
theorem mem_nodes_after {ls : List (List Char)} {b : Descriptor} :
    b ∈ (after env file state ls).outline.nodes ↔ b ∈ state.outline.nodes ∨
      ∃ before line rest, ls = before ++ line :: rest ∧
        ∃ text d, Places env file (after env file state before) line text d ∧ b ∈ d.nodes := by
  induction ls generalizing state with
  | nil => simp [after]
  | cons line ls ih =>
    have hfirst : b ∈ (readLine env file state line).state.outline.nodes ↔
        b ∈ state.outline.nodes ∨ ∃ text d, Places env file state line text d ∧ b ∈ d.nodes := by
      by_cases h : ∃ text d, Places env file state line text d
      · obtain ⟨text, d, hplaces⟩ := h
        rw [nodes_readLine hplaces, List.mem_append]
        refine or_congr_right ⟨fun hb => ⟨text, d, hplaces, hb⟩, ?_⟩
        rintro ⟨text', d', hplaces', hb⟩
        cases hplaces.kind.symm.trans hplaces'.kind
        cases hplaces.node.symm.trans hplaces'.node
        exact hb
      · rw [outline_readLine_of_not_places h]
        refine (or_iff_left ?_).symm
        rintro ⟨text, d, hplaces, -⟩
        exact h ⟨text, d, hplaces⟩
    rw [after_cons, ih, hfirst, exists_split_cons, or_assoc]
    rfl

end Lines

/-! ## The nodes of readings -/

section Readings

variable (store : FileStore) (normalize : String → Except String String)

/-- A line of the file of `v` stands for `d`; its text is read in `state`. -/
def Visit.Places (v : Visit) (state : Reading) (text : List Char) (d : Descriptor) : Prop :=
  ∃ content, Source.decode v.file v.bytes = .ok content ∧
    ∃ before line rest, lines content = before ++ line :: rest ∧
      state = after (v.surroundings store normalize) v.file .start before ∧
      TextFormat.Places (v.surroundings store normalize) v.file state line text d

/-- A line of the file of `v` takes children from the file of `w`. -/
def Visit.Takes (v : Visit) (state : Reading) (text : List Char) (w : Visit) : Prop :=
  ∃ entry ∈ includesOf store v.file state text, ∃ p loc bytes,
    includePath? v.file entry.value = some p ∧ store.read p = .ok (loc, bytes) ∧ loc ∉ v.active ∧
      w = ⟨loc :: v.active, p, bytes⟩

/-- The readings that contribute to the forest of a root file: the one of the root file itself, and
those of the files that a line takes children from which stands for a node. -/
inductive Contributes (file : FilePath) : Visit → Prop
  | root {loc : Location} {bytes : ByteArray} (h : store.read file = .ok (loc, bytes)) :
      Contributes file ⟨[loc], file, bytes⟩
  | taken {v w : Visit} {state : Reading} {text : List Char} {d : Descriptor}
      (h : Contributes file v) (hline : v.Places store normalize state text d)
      (hw : v.Takes store state text w) : Contributes file w

/-- The nodes of the forest of a reading. -/
def Visit.nodes (v : Visit) : List Descriptor :=
  match Source.decode v.file v.bytes with
  | .error _ => []
  | .ok content => (readFile store normalize v.active v.file content).2.flatMap Descriptor.nodes

variable {store normalize}

theorem Visit.nodes_eq {v : Visit} {content : List Char}
    (h : Source.decode v.file v.bytes = .ok content) : v.nodes store normalize =
      (readFile store normalize v.active v.file content).2.flatMap Descriptor.nodes := by
  rw [nodes, h]

theorem Visit.nodes_eq_after {v : Visit} {content : List Char}
    (h : Source.decode v.file v.bytes = .ok content) : v.nodes store normalize =
      (after (v.surroundings store normalize) v.file .start (lines content)).outline.nodes := by
  rw [nodes_eq h, readFile_eq_after]
  exact Outline.nodes_forest _

/-- What an include contributes are the nodes of the file that it names. -/
theorem mem_nodes_contribution {v : Visit} {entry : Property} {b : Descriptor} :
    b ∈ (contribution (v.surroundings store normalize).children v.file entry).flatMap
        Descriptor.nodes ↔
      ∃ p loc bytes, includePath? v.file entry.value = some p ∧ store.read p = .ok (loc, bytes) ∧
        loc ∉ v.active ∧ b ∈ Visit.nodes store normalize ⟨loc :: v.active, p, bytes⟩ := by
  rw [contribution]
  cases hpath : includePath? v.file entry.value with
  | none => simp
  | some p =>
    have hchild : (v.surroundings store normalize).children p =
        inclusionOf store (readFile store normalize) v.active p := rfl
    rw [Option.map_some, hchild, inclusionOf]
    cases hread : store.read p with
    | error reason =>
      by_cases habsent : FileStore.saysAbsent reason = true
      · simp [habsent, hread, Inclusion.forest]
      · simp [habsent, hread]
    | ok found =>
      obtain ⟨loc, bytes⟩ := found
      by_cases hactive : loc ∈ v.active
      · simp [hread, hactive]
      · cases hs : Source.decode p bytes with
        | error e => simp [hread, hactive, Visit.nodes, hs, Inclusion.forest]
        | ok s =>
          have hnodes : Visit.nodes store normalize ⟨loc :: v.active, p, bytes⟩ =
            (readFile store normalize (loc :: v.active) p s).2.flatMap Descriptor.nodes :=
              Visit.nodes_eq hs
          simp only [List.contains_iff_mem, hactive, if_false, hs, Inclusion.forest, ← hnodes]
          constructor
          · exact fun hb => ⟨p, loc, bytes, rfl, hread, hactive, hb⟩
          · rintro ⟨_, _, _, hpath', hread', -, hb⟩
            cases hpath'
            cases hread.symm.trans hread'
            exact hb

/-- **The nodes of a reading** are those that its lines place, each with the nodes of the files that
the line takes children from. -/
theorem Visit.mem_nodes {v : Visit} {b : Descriptor} :
    b ∈ v.nodes store normalize ↔ ∃ state text d, v.Places store normalize state text d ∧
      (b = d.alone ∨ ∃ w, v.Takes store state text w ∧ b ∈ w.nodes store normalize) := by
  have hbelow : ∀ {state text d}, v.Places store normalize state text d →
      (b ∈ d.nodes ↔ b = d.alone ∨ ∃ w, v.Takes store state text w ∧ b ∈ w.nodes store normalize) := by
    rintro state text d ⟨content, -, before, line, rest, -, -, hplaces⟩
    rw [Descriptor.nodes_eq, List.mem_cons, (children_of_readNode hplaces.node).1, List.flatMap_assoc,
      List.mem_flatMap]
    refine or_congr_right ?_
    simp only [mem_nodes_contribution]
    constructor
    · rintro ⟨entry, hentry, p, loc, bytes, hpath, hread, hactive, hb⟩
      exact ⟨_, ⟨entry, hentry, p, loc, bytes, hpath, hread, hactive, rfl⟩, hb⟩
    · rintro ⟨_, ⟨entry, hentry, p, loc, bytes, hpath, hread, hactive, rfl⟩, hb⟩
      exact ⟨entry, hentry, p, loc, bytes, hpath, hread, hactive, hb⟩
  constructor
  · intro hb
    cases hcontent : Source.decode v.file v.bytes with
    | error e => simp [nodes, hcontent] at hb
    | ok content =>
      rw [nodes_eq_after hcontent] at hb
      rcases mem_nodes_after.1 hb with hb | ⟨before, line, rest, hlines, text, d, hplaces, hb⟩
      · cases hb
      · have hv : v.Places store normalize _ text d :=
          ⟨content, hcontent, before, line, rest, hlines, rfl, hplaces⟩
        exact ⟨_, text, d, hv, (hbelow hv).1 hb⟩
  · rintro ⟨state, text, d, hv, hb⟩
    replace hb := (hbelow hv).2 hb
    obtain ⟨content, hcontent, before, line, rest, hlines, rfl, hplaces⟩ := hv
    rw [nodes_eq_after hcontent]
    exact mem_nodes_after.2 (.inr ⟨before, line, rest, hlines, text, d, hplaces, hb⟩)

/-- The nodes of a reading that contributes are placed by lines of such readings. -/
theorem Contributes.exists_of_mem_nodes {file : FilePath} {v : Visit}
    (h : Contributes store normalize file v) {b : Descriptor} (hb : b ∈ v.nodes store normalize) :
    ∃ w state text d, Contributes store normalize file w ∧
      w.Places store normalize state text d ∧ b = d.alone := by
  -- The recursion is that of reading: below a file, fewer files are left that are not being read.
  induction hn : remaining store v.active using Nat.strongRecOn generalizing v with
  | ind n ih =>
    obtain ⟨state, text, d, hplaces, rfl | ⟨w, hw, hb⟩⟩ := Visit.mem_nodes.1 hb
    · exact ⟨v, state, text, d, h, hplaces, rfl⟩
    · obtain ⟨entry, -, p, loc, bytes, -, hread, hactive, rfl⟩ := id hw
      have hlt := remaining_lt (FileStore.mem_locations_of_read hread) hactive
      exact ih _ (hn ▸ hlt) (h.taken hplaces hw) hb rfl

/-- The nodes of a reading that contributes are nodes of the root file. -/
theorem Contributes.mem_nodes_root {file : FilePath} {v : Visit}
    (h : Contributes store normalize file v) {b : Descriptor} (hb : b ∈ v.nodes store normalize) :
    ∃ loc bytes, store.read file = .ok (loc, bytes) ∧
      b ∈ Visit.nodes store normalize ⟨[loc], file, bytes⟩ := by
  induction h with
  | root h => exact ⟨_, _, h, hb⟩
  | taken h hline hw ih => exact ih (Visit.mem_nodes.2 ⟨_, _, _, hline, .inr ⟨_, hw, hb⟩⟩)

theorem mem_nodes_parse {file : FilePath} {b : Descriptor} :
    (∃ forest, (parse store normalize file).2 = .ok forest ∧
        b ∈ (Descriptor.walkAll forest).map Descriptor.alone) ↔
      ∃ loc bytes, store.read file = .ok (loc, bytes) ∧
        b ∈ Visit.nodes store normalize ⟨[loc], file, bytes⟩ := by
  have hwalk : ∀ forest, (Descriptor.walkAll forest).map Descriptor.alone =
      forest.flatMap Descriptor.nodes := by
    intro forest
    rw [Descriptor.walkAll_eq_flatMap, List.map_flatMap]
    rfl
  simp only [hwalk, parse, Source.read]
  cases hread : store.read file with
  | error reason => simp
  | ok found =>
    obtain ⟨loc, bytes⟩ := found
    cases hs : Source.decode file bytes with
    | error e => simp [Visit.nodes, hs]
    | ok s =>
      have hnodes : Visit.nodes store normalize ⟨[loc], file, bytes⟩ =
        (readFile store normalize [loc] file s).2.flatMap Descriptor.nodes := Visit.nodes_eq hs
      simp only [hs]
      constructor
      · rintro ⟨forest, hforest, hb⟩
        cases hforest
        exact ⟨loc, bytes, rfl, hnodes ▸ hb⟩
      · rintro ⟨_, _, hfound, hb⟩
        cases hfound
        exact ⟨_, rfl, hnodes ▸ hb⟩

/-- **Each node of a forest stands for a line**, and each line without a fault for a node, in the
readings that contribute to it. -/
theorem mem_nodes_iff {file : FilePath} {b : Descriptor} :
    (∃ forest, (parse store normalize file).2 = .ok forest ∧
        b ∈ (Descriptor.walkAll forest).map Descriptor.alone) ↔
      ∃ v state text d, Contributes store normalize file v ∧ v.Places store normalize state text d ∧
        b = d.alone := by
  rw [mem_nodes_parse]
  constructor
  · rintro ⟨loc, bytes, hread, hb⟩
    exact (Contributes.root hread).exists_of_mem_nodes hb
  · rintro ⟨v, state, text, d, hv, hplaces, rfl⟩
    exact hv.mem_nodes_root (Visit.mem_nodes.2 ⟨state, text, d, hplaces, .inl rfl⟩)

/-- What does not depend on the children of a node holds of all nodes of a forest if it holds of those
that lines stand for. -/
theorem forall_walkAll_iff {file : FilePath} (P : Descriptor → Prop)
    (hP : ∀ d : Descriptor, P d.alone ↔ P d) :
    (∀ forest, (parse store normalize file).2 = .ok forest →
        ∀ d ∈ Descriptor.walkAll forest, P d) ↔
      ∀ v state text d, Contributes store normalize file v →
        v.Places store normalize state text d → P d := by
  constructor
  · intro h v state text d hv hplaces
    obtain ⟨forest, hforest, hmem⟩ := mem_nodes_iff.2 ⟨v, state, text, d, hv, hplaces, rfl⟩
    obtain ⟨b, hb, halone⟩ := List.mem_map.1 hmem
    rw [← hP, ← halone, hP]
    exact h forest hforest b hb
  · intro h forest hforest b hb
    obtain ⟨v, state, text, d, hv, hplaces, halone⟩ :=
      mem_nodes_iff.1 ⟨forest, hforest, List.mem_map_of_mem hb⟩
    rw [← hP, halone, hP]
    exact h v state text d hv hplaces

end Readings

end TextFormat

end LayoutTree
