import LayoutTree.Proofs.Build.Start

/-!
# Nodes put below others

The identities of a node and the nodes below it are listed by `Node.ids`. Putting a child in the
place that was found for it adds the identities of the child, and that of the wrapper if one was
made for it (`HasRoom.perm_ids_place`). The parent still is what the search for a place expects
(`HasRoom.fits_place`).
-/

namespace LayoutTree

namespace Node

mutual

/-- The identities of a node and the nodes below it. -/
def ids : Node → List Nat
  | ⟨id, _, _, _, _, _, _, _, _, _, children⟩ => id :: idsAmong children

/-- The identities of nodes and the nodes below them. -/
def idsAmong : List Node → List Nat
  | [] => []
  | n :: rest => n.ids ++ idsAmong rest

end

theorem ids_eq (n : Node) : n.ids = n.id :: idsAmong n.children := by
  cases n
  rw [ids]

theorem idsAmong_append (ns ms : List Node) : idsAmong (ns ++ ms) = idsAmong ns ++ idsAmong ms := by
  induction ns with
  | nil => rfl
  | cons n ns ih => rw [List.cons_append, idsAmong, ih, idsAmong, List.append_assoc]

theorem idsAmong_singleton (n : Node) : idsAmong [n] = n.ids := by
  rw [idsAmong, idsAmong, List.append_nil]

mutual

/-- The fresh identity of a node is greater than all below it. -/
theorem lt_freshId : ∀ (n : Node), ∀ i ∈ n.ids, i < n.freshId
  | ⟨id, _, _, _, _, _, _, _, _, _, children⟩, i, hi => by
    rw [ids, List.mem_cons] at hi
    rw [freshId]
    rcases hi with rfl | hi
    · exact Nat.lt_of_lt_of_le (Nat.lt_succ_self i) (Nat.le_max_left _ _)
    · exact Nat.lt_of_lt_of_le (lt_freshIdAmong children i hi) (Nat.le_max_right _ _)

theorem lt_freshIdAmong : ∀ (ns : List Node), ∀ i ∈ idsAmong ns, i < freshIdAmong ns
  | [], i, hi => absurd hi List.not_mem_nil
  | n :: rest, i, hi => by
    rw [idsAmong, List.mem_append] at hi
    rw [freshIdAmong]
    rcases hi with hi | hi
    · exact Nat.lt_of_lt_of_le (lt_freshId n i hi) (Nat.le_max_left _ _)
    · exact Nat.lt_of_lt_of_le (lt_freshIdAmong rest i hi) (Nat.le_max_right _ _)

end

/-! ## Owners -/

theorem id_heldBy (n : Node) (owner : Nat) : (n.heldBy owner).id = n.id := by
  rw [heldBy]
  split <;> rfl

theorem cls_heldBy (n : Node) (owner : Nat) : (n.heldBy owner).cls = n.cls := by
  rw [heldBy]
  split <;> rfl

theorem children_heldBy (n : Node) (owner : Nat) : (n.heldBy owner).children = n.children := by
  rw [heldBy]
  split <;> rfl

theorem ids_heldBy (n : Node) (owner : Nat) : (n.heldBy owner).ids = n.ids := by
  rw [ids_eq, ids_eq, id_heldBy, children_heldBy]

theorem ids_ownedBy (n : Node) (owner : Nat) : (n.ownedBy owner).ids = n.ids := by
  rw [ids_eq, ids_eq]
  rfl

/-! ## Children -/

/-- A node that takes one more child: it keeps it, and has no content yet if it holds one child. -/
structure Takes (n : Node) : Prop where
  keeps : n.cls.KeepsChildren
  notLeaf : n.cls.capability ≠ .leaf
  empty : n.cls.capability = .content → n.children = []

/-- One more child comes last. -/
theorem Takes.exists_addChild {n : Node} (h : n.Takes) (child : Node) :
    ∃ child', (n.addChild child).children = n.children ++ [child'] ∧
      (child' = child.ownedBy n.id ∨ child' = child.heldBy n.id) := by
  rw [addChild]
  split
  · exact ⟨_, rfl, Or.inl rfl⟩
  · exact ⟨_, rfl, Or.inr rfl⟩
  · next hcontent => exact ⟨_, by rw [h.empty hcontent]; rfl, Or.inr rfl⟩
  · next hsink => exact absurd hsink (h.keeps _)
  · next hleaf => exact absurd hleaf h.notLeaf

theorem id_assign (n : Node) (slot : String) (v : Value) : (n.assign slot v).id = n.id := by
  simp only [assign]
  split <;> rfl

theorem id_addChild (n child : Node) : (n.addChild child).id = n.id := by
  rw [addChild]
  split
  · rfl
  · rfl
  · rfl
  · exact id_assign _ _ _
  · rfl

theorem cls_addChild {n : Node} (h : n.Takes) (child : Node) : (n.addChild child).cls = n.cls := by
  rw [addChild]
  split <;> first | rfl | next hsink => exact absurd hsink (h.keeps _)

theorem ids_addChild {n : Node} (h : n.Takes) (child : Node) :
    (n.addChild child).ids = n.ids ++ child.ids := by
  obtain ⟨child', hchildren, hchild⟩ := h.exists_addChild child
  have hids : child'.ids = child.ids := by
    rcases hchild with rfl | rfl
    · exact ids_ownedBy _ _
    · exact ids_heldBy _ _
  rw [ids_eq, ids_eq n, id_addChild, hchildren, idsAmong_append, idsAmong_singleton, hids,
    List.cons_append]

/-- A panel takes every child. -/
theorem takes_of_panel {n : Node} (h : n.cls.capability = .panel) : n.Takes :=
  ⟨fun counter => by rw [h]; nofun, by rw [h]; nofun, fun hc => by rw [h] at hc; cases hc⟩

/-- A wrapper takes the content that it is put around, and more children after it. -/
theorem takes_heldBy_of_panel {w : Node} (h : w.cls.capability = .panel) (owner : Nat)
    (content : Node) : (w.heldBy owner).Takes ∧ ((w.heldBy owner).addChild content).Takes := by
  have htakes : (w.heldBy owner).Takes := takes_of_panel (by rw [cls_heldBy, h])
  exact ⟨htakes, takes_of_panel (by rw [cls_addChild htakes, cls_heldBy, h])⟩

end Node

/-! ## Steps that concern the tree -/

namespace BuildStep

/-- The node that is made for a descriptor. -/
def created? : BuildStep → Option Nat
  | create n => some n
  | _ => none

/-- The node that is attached. -/
def attached? : BuildStep → Option Nat
  | attach _ n => some n
  | _ => none

/-- The node that is given up. -/
def dropped? : BuildStep → Option Nat
  | drop n => some n
  | _ => none

/-- The wrapper that is put around content. -/
def wrapper? : BuildStep → Option Nat
  | wrap _ w => some w
  | _ => none

end BuildStep

namespace Build

open Node

theorem Frame.Fits.takes {f : Frame} (hf : f.Fits) (hcap : f.node.cls.capability ≠ .leaf)
    (hempty : f.node.cls.capability = .content → f.node.children = []) : f.node.Takes :=
  ⟨hf.keeps, hcap, hempty⟩

/-- A new node fits. -/
theorem NewNode.fits {known : NodeType → Prop} {types : TypeRegistry} {name : String} {next : Nat}
    {n : Node} (h : NewNode known types name next n) : Frame.Fits ⟨n, false⟩ where
  keeps := h.keeps
  single _ := by rw [h.bare]; exact Nat.zero_le _
  wrapper hw := by cases hw

variable {f f' : Frame} {next : Nat} {place : Place} {steps : List BuildStep}

/-- The wrapper of a node after a child is put into it. -/
theorem children_place_inWrapper {w : Node} (hw : f.node.children = [w]) (child : Node) :
    (f.place child .inWrapper).node.children = [w.addChild child] := by
  rw [Frame.place]
  dsimp only
  rw [hw]
  rfl

/-- The parent of a child remains the parent. -/
theorem Frame.id_place (f : Frame) (child : Node) (place : Place) :
    (f.place child place).node.id = f.node.id := by
  cases place with
  | direct => exact id_addChild f.node child
  | inWrapper => rfl

theorem HasRoom.id_place (room : HasRoom f next f' place steps) (child : Node) :
    (f'.place child place).node.id = f.node.id :=
  (f'.id_place child place).trans room.id_eq

theorem cls_place (hf : f.Fits) (room : HasRoom f next f' place steps) (child : Node) :
    (f'.place child place).node.cls = f.node.cls := by
  cases room with
  | direct takes empty => exact cls_addChild (hf.takes takes empty) child
  | inside => rfl
  | wrapped => rfl

theorem wrapped_place (child : Node) : (f.place child place).wrapped = f.wrapped := by
  cases place <;> rfl

/-- A node with one more child still fits. -/
theorem HasRoom.fits_place (room : HasRoom f next f' place steps) (hf : f.Fits) (child : Node) :
    (f'.place child place).Fits := by
  have hcls := cls_place hf room child
  have hwrapped : (f'.place child place).wrapped = f'.wrapped := wrapped_place child
  cases room with
  | direct takes empty =>
    obtain ⟨child', hchildren, -⟩ := (hf.takes takes empty).exists_addChild child
    refine ⟨hcls ▸ hf.keeps, fun hcap => ?_, fun hw => ?_⟩
    · rw [hcls] at hcap
      rw [Frame.place, hchildren, empty hcap]
      exact Nat.le_refl 1
    · -- A wrapper would be content already.
      obtain ⟨hcap, w, hw, -⟩ := hf.wrapper (hwrapped ▸ hw)
      rw [empty hcap] at hw
      cases hw
  | inside wrapped =>
    obtain ⟨hcap, w, hw, hpanel⟩ := hf.wrapper wrapped
    have hchildren := children_place_inWrapper hw child
    refine ⟨hcls ▸ hf.keeps, fun _ => ?_, fun _ => ⟨hcls ▸ hcap, _, hchildren, ?_⟩⟩
    · rw [hchildren]
      exact Nat.le_refl 1
    · rw [cls_addChild (takes_of_panel hpanel)]
      exact hpanel
  | @wrapped content w single children unwrapped id bare panel =>
    obtain ⟨htakes, htakes'⟩ := takes_heldBy_of_panel panel f.node.id content
    refine ⟨hcls ▸ hf.keeps, fun _ => Nat.le_refl 1, fun _ => ⟨hcls ▸ single, _, rfl, ?_⟩⟩
    rw [cls_addChild htakes', cls_addChild htakes, cls_heldBy, panel]

/-- Making room makes wrappers only. -/
theorem HasRoom.steps_eq (room : HasRoom f next f' place steps) :
    steps.filterMap BuildStep.created? = [] ∧ steps.filterMap BuildStep.attached? = [] ∧
      steps.filterMap BuildStep.dropped? = [] ∧
      steps.filterMap BuildStep.wrapper? = List.range' next steps.length := by
  cases room <;> exact ⟨rfl, rfl, rfl, rfl⟩

/-- A node with one more child has below it what it had, the child, and a wrapper if there is a new
one. -/
theorem HasRoom.perm_ids_place (room : HasRoom f next f' place steps) (hf : f.Fits) (child : Node) :
    (f'.place child place).node.ids.Perm
      (f.node.ids ++ (child.ids ++ steps.filterMap BuildStep.wrapper?)) := by
  cases room with
  | direct takes empty =>
    rw [Frame.place, ids_addChild (hf.takes takes empty), List.filterMap_nil, List.append_nil]
  | inside wrapped =>
    obtain ⟨-, w, hw, hpanel⟩ := hf.wrapper wrapped
    rw [ids_eq, Frame.id_place, children_place_inWrapper hw, idsAmong_singleton,
      ids_addChild (takes_of_panel hpanel), ids_eq f.node, hw, idsAmong_singleton,
      List.filterMap_nil, List.append_nil, List.cons_append]
  | @wrapped content w single children unwrapped id bare panel =>
    obtain ⟨htakes, htakes'⟩ := takes_heldBy_of_panel panel f.node.id content
    have hids : ((f.wrap content w).place child .inWrapper).node.ids =
        f.node.id :: next :: (content.ids ++ child.ids) := by
      rw [ids_eq, children_place_inWrapper (w := (w.heldBy f.node.id).addChild content) rfl,
        idsAmong_singleton, ids_addChild htakes', ids_addChild htakes, ids_eq (w.heldBy _),
        id_heldBy, children_heldBy, id, bare]
      rfl
    rw [hids, ids_eq f.node, children, idsAmong_singleton]
    refine List.perm_iff_count.2 fun a => ?_
    simp only [List.count_cons, List.count_append, List.filterMap_cons, BuildStep.wrapper?,
      List.filterMap_nil, List.count_nil]
    omega

end Build

end LayoutTree
