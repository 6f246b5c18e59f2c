import LayoutTree.Layout.Outline

/-!
# Forests placed node by node

A forest written line by line has each node before those below it, indented by its depth. Placing
the nodes one by one gives the forest back: closing the open nodes at some depth after a forest was
placed there adds the forest to the innermost node that stays open (`closed_placeAll`).
-/

namespace LayoutTree.Layout.Outline

/-- An outline with the nodes closed that are indented at least as far as `depth`. -/
def closed (depth : Nat) (o : Outline) : Outline :=
  closeFrom depth o.roots none o.stack

/-- An outline with complete nodes added to the innermost open node, or at the top. -/
def extend (o : Outline) (ds : List Descriptor) : Outline :=
  match o.stack with
  | [] => ⟨o.roots ++ ds, []⟩
  | top :: rest =>
    ⟨o.roots, { top with node := { top.node with children := top.node.children ++ ds } } :: rest⟩

mutual

/-- A node placed at a depth, and then the nodes below it. -/
def place (o : Outline) (depth : Nat) : Descriptor → Outline
  | ⟨typeName, properties, group, children, source⟩ =>
    placeAll (o.attach depth ⟨typeName, properties, group, [], source⟩) (depth + 1) children

/-- Nodes placed at a depth, in order, each before the nodes below it. -/
def placeAll (o : Outline) (depth : Nat) : List Descriptor → Outline
  | [] => o
  | d :: ds => placeAll (place o depth d) depth ds

end

/-- Closing from a depth on after closing from a greater one. -/
theorem closed_closeFrom {k l : Nat} (h : k ≤ l) (roots : List Descriptor)
    (last : Option Descriptor) (stack : List OpenNode) :
    closed k (closeFrom l roots last stack) = closeFrom k roots last stack := by
  induction stack generalizing last with
  | nil => simp [closeFrom, closed]
  | cons top rest ih =>
    by_cases hl : top.indentation < l
    · rw [closeFrom, if_pos hl, closed, closeFrom, closeFrom, adopt_none]
    · have hk : ¬ top.indentation < k := by omega
      rw [closeFrom, if_neg hl, closeFrom, if_neg hk, ih]

theorem indentation_lt_of_closeFrom {k : Nat} {roots : List Descriptor} {last : Option Descriptor}
    {stack : List OpenNode} {top : OpenNode} {rest : List OpenNode}
    (h : (closeFrom k roots last stack).stack = top :: rest) : top.indentation < k := by
  induction stack generalizing last with
  | nil => cases h
  | cons first others ih =>
    rw [closeFrom] at h
    split at h
    · next hk =>
      obtain rfl := (List.cons.inj h).1
      exact hk
    · exact ih h

/-- A node that was just placed stays open at greater depths. -/
theorem closed_succ_attach (depth : Nat) (d : Descriptor) (o : Outline) :
    closed (depth + 1) (o.attach depth d) = o.attach depth d := by
  simp [closed, attach, closeFrom, adopt_none]

/-- A node that was just placed is the last one of those that it is added to. -/
theorem closed_attach (depth : Nat) (d : Descriptor) (o : Outline) :
    closed depth (o.attach depth d) = extend (closed depth o) [d] := by
  have hopen : ∀ {top rest}, (closed depth o).stack = top :: rest → top.indentation < depth :=
    indentation_lt_of_closeFrom
  change closeFrom depth (closed depth o).roots none (⟨depth, d⟩ :: (closed depth o).stack) = _
  rw [closeFrom, if_neg (Nat.lt_irrefl _), adopt_none]
  generalize closed depth o = o at hopen
  obtain ⟨roots, stack⟩ := o
  cases stack with
  | nil => rfl
  | cons top rest =>
    rw [closeFrom, if_pos (hopen rfl)]
    rfl

theorem extend_nil (o : Outline) : extend o [] = o := by
  obtain ⟨roots, _ | ⟨⟨k, ⟨typeName, properties, group, children, source⟩⟩, rest⟩⟩ := o <;>
    simp [extend]

theorem extend_attach (depth : Nat) (typeName : String) (properties : List Property)
    (group : Option String) (children : List Descriptor) (source : Option String) (o : Outline) :
    extend (o.attach depth ⟨typeName, properties, group, [], source⟩) children =
      o.attach depth ⟨typeName, properties, group, children, source⟩ := by
  simp [extend, attach]

theorem extend_extend (o : Outline) (ds es : List Descriptor) :
    extend (extend o ds) es = extend o (ds ++ es) := by
  obtain ⟨roots, _ | ⟨top, rest⟩⟩ := o <;> simp [extend]

mutual

/-- **A node that was placed with all below it** is added as a whole once it is closed. -/
theorem closed_place (depth : Nat) : ∀ (d : Descriptor) (o : Outline),
    closed depth (place o depth d) = extend (closed depth o) [d]
  | ⟨typeName, properties, group, children, source⟩, o => by
    have hchildren := closed_placeAll (depth + 1) children
      (o.attach depth ⟨typeName, properties, group, [], source⟩)
    rw [closed_succ_attach, extend_attach] at hchildren
    rw [place, ← closed_attach, ← hchildren]
    exact (closed_closeFrom (Nat.le_succ depth) _ _ _).symm

/-- **A forest that was placed** is added as a whole once its nodes are closed. -/
theorem closed_placeAll (depth : Nat) : ∀ (ds : List Descriptor) (o : Outline),
    closed depth (placeAll o depth ds) = extend (closed depth o) ds
  | [], o => by rw [placeAll, extend_nil]
  | d :: ds, o => by
    rw [placeAll, closed_placeAll depth ds, closed_place depth d, extend_extend,
      List.singleton_append]

end

/-- A forest placed in an empty outline is the forest of the outline. -/
theorem forest_placeAll (ds : List Descriptor) : (placeAll .empty 0 ds).forest = ds :=
  congrArg Outline.roots (closed_placeAll 0 ds .empty)

end LayoutTree.Layout.Outline
