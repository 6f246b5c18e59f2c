import LayoutTree.Proofs.Build.Tree

/-!
# Reading a tree of nodes

A node whose content is a wrapper is read as if it held the children of the wrapper (`Node.read`).
Read in this way, a tree mirrors a forest of descriptors if they have the same shape and each node
is of the class that its type name stands for (`Mirrors`). A tree owns its nodes if each has for its
parent the node that holds it (`Node.Owns`).

Putting one more child in its place adds the child as the last one read
(`HasRoom.mirrorsAll_place`), and the child is owned (`HasRoom.owns_place`).
-/

namespace LayoutTree

namespace Node

/-- The children of a node as they are read: those of the wrapper if its content is one. -/
def read (wrappers : List Nat) (n : Node) : List Node :=
  match n.cls.capability, n.children with
  | .content, [w] => if w.id ∈ wrappers then w.children else [w]
  | _, children => children

mutual

/-- Each node below a node has the one that holds it for its parent, if it is one that has a parent.
-/
def Owns : Node → Prop
  | ⟨id, _, _, _, _, _, _, _, _, _, children⟩ => OwnsAll id children

/-- An owner is the parent of nodes, and they own those below them. -/
def OwnsAll (owner : Nat) : List Node → Prop
  | [] => True
  | n :: rest => ((n.cls.isNode = true → n.parent = some owner) ∧ n.Owns) ∧ OwnsAll owner rest

end

end Node

mutual

/-- A node is of the class that the type name of a descriptor stands for, and what is read below it
mirrors what is below the descriptor. -/
def Mirrors (types : TypeRegistry) (wrappers : List Nat) : Descriptor → Node → Prop
  | .mk typeName _ _ children _, n =>
    (∃ t, types.resolve typeName = some t ∧ n.cls = t.cls) ∧
      MirrorsAll types wrappers children (n.read wrappers)

/-- Nodes mirror descriptors, in their order. -/
def MirrorsAll (types : TypeRegistry) (wrappers : List Nat) : List Descriptor → List Node → Prop
  | [], ns => ns = []
  | d :: ds, ns => ∃ n rest, ns = n :: rest ∧ Mirrors types wrappers d n ∧
      MirrorsAll types wrappers ds rest

end

variable {types : TypeRegistry} {wrappers : List Nat}

/-! ## Children that are read -/

namespace Node

theorem read_of_ne_content {n : Node} (h : n.cls.capability ≠ .content) :
    n.read wrappers = n.children := by
  rw [read]
  split
  · next hcap _ => exact absurd hcap h
  · rfl

theorem read_of_wrapper {n w : Node} (hcap : n.cls.capability = .content) (hn : n.children = [w])
    (hw : w.id ∈ wrappers) : n.read wrappers = w.children := by
  rw [read, hcap, hn]
  exact if_pos hw

theorem read_of_single {n c : Node} (hn : n.children = [c]) (hc : c.id ∉ wrappers) :
    n.read wrappers = [c] := by
  rw [read, hn]
  split
  · next w heq =>
    obtain ⟨rfl, -⟩ := List.cons.inj heq
    exact if_neg hc
  · rfl

theorem read_of_bare {n : Node} (hn : n.children = []) : n.read wrappers = [] := by
  rw [read, hn]
  split
  · next heq => cases heq
  · rfl

theorem read_congr {n n' : Node} (hcls : n'.cls = n.cls) (hchildren : n'.children = n.children) :
    n'.read wrappers = n.read wrappers := by
  rw [read, read, hcls, hchildren]

/-! ## Owners -/

theorem ownsAll_iff {owner : Nat} {ns : List Node} :
    OwnsAll owner ns ↔ ∀ n ∈ ns, (n.cls.isNode = true → n.parent = some owner) ∧ n.Owns := by
  induction ns with
  | nil =>
    rw [OwnsAll]
    exact ⟨fun _ _ h => absurd h List.not_mem_nil, fun _ => trivial⟩
  | cons n ns ih => rw [OwnsAll, ih, List.forall_mem_cons]

theorem owns_iff {n : Node} :
    n.Owns ↔ ∀ c ∈ n.children, (c.cls.isNode = true → c.parent = some n.id) ∧ c.Owns := by
  cases n
  rw [Owns]
  exact ownsAll_iff

theorem owns_of_bare {n : Node} (h : n.children = []) : n.Owns := by
  rw [owns_iff, h]
  exact fun _ hc => absurd hc List.not_mem_nil

theorem owns_congr {n n' : Node} (hid : n'.id = n.id) (hchildren : n'.children = n.children) :
    n'.Owns ↔ n.Owns := by
  rw [owns_iff, owns_iff, hid, hchildren]

/-- A node that takes a child is the parent of it. -/
theorem Takes.exists_owned {n : Node} (h : n.Takes) (child : Node) :
    ∃ child', (n.addChild child).children = n.children ++ [child'] ∧ child'.id = child.id ∧
      child'.cls = child.cls ∧ child'.children = child.children ∧
      (child'.cls.isNode = true → child'.parent = some n.id) := by
  obtain ⟨child', hchildren, rfl | rfl⟩ := h.exists_addChild child
  · exact ⟨_, hchildren, rfl, rfl, rfl, fun _ => rfl⟩
  · refine ⟨_, hchildren, id_heldBy _ _, cls_heldBy _ _, children_heldBy _ _, fun hnode => ?_⟩
    rw [cls_heldBy] at hnode
    rw [heldBy, if_pos hnode]
    rfl

theorem parent_addChild {n : Node} (h : n.Takes) (child : Node) :
    (n.addChild child).parent = n.parent := by
  rw [addChild]
  split <;> first | rfl | next hsink => exact absurd hsink (h.keeps _)

theorem owns_addChild {n child : Node} (h : n.Takes) (hn : n.Owns) (hchild : child.Owns) :
    (n.addChild child).Owns := by
  obtain ⟨child', hchildren, hid, -, hbelow, hparent⟩ := h.exists_owned child
  rw [owns_iff, id_addChild, hchildren]
  intro c hc
  rcases List.mem_append.1 hc with hc | hc
  · exact owns_iff.1 hn c hc
  · rw [List.mem_singleton.1 hc]
    exact ⟨hparent, (owns_congr hid hbelow).2 hchild⟩

end Node

/-! ## Mirrors -/

theorem Mirrors.congr {d : Descriptor} {n n' : Node} (h : Mirrors types wrappers d n)
    (hcls : n'.cls = n.cls) (hchildren : n'.children = n.children) :
    Mirrors types wrappers d n' := by
  cases d
  rw [Mirrors] at h ⊢
  rwa [hcls, Node.read_congr hcls hchildren]

namespace MirrorsAll

theorem nil : MirrorsAll types wrappers [] [] := by rw [MirrorsAll]

/-- One more node mirrors one more descriptor. -/
theorem concat {ds : List Descriptor} {ns : List Node} {d : Descriptor} {n : Node}
    (h : MirrorsAll types wrappers ds ns) (hn : Mirrors types wrappers d n) :
    MirrorsAll types wrappers (ds ++ [d]) (ns ++ [n]) := by
  induction ds generalizing ns with
  | nil =>
    rw [MirrorsAll] at h
    rw [h, List.nil_append, List.nil_append, MirrorsAll]
    exact ⟨n, [], rfl, hn, nil⟩
  | cons d' ds ih =>
    rw [MirrorsAll] at h
    obtain ⟨m, rest, rfl, hm, hrest⟩ := h
    rw [List.cons_append, List.cons_append, MirrorsAll]
    exact ⟨m, rest ++ [n], rfl, hm, ih hrest⟩

theorem congr_singleton {ds : List Descriptor} {n n' : Node} (h : MirrorsAll types wrappers ds [n])
    (hcls : n'.cls = n.cls) (hchildren : n'.children = n.children) :
    MirrorsAll types wrappers ds [n'] := by
  cases ds with
  | nil =>
    rw [MirrorsAll] at h
    cases h
  | cons d ds =>
    rw [MirrorsAll] at h ⊢
    obtain ⟨m, rest, heq, hm, hrest⟩ := h
    obtain ⟨rfl, rfl⟩ := List.cons.inj heq
    exact ⟨n', [], rfl, hm.congr hcls hchildren, hrest⟩

end MirrorsAll

/-! ## One more child -/

namespace Build

open Node

/-- A node with children in progress is read through its wrapper exactly if its content is one. -/
def Frame.Reads (f : Frame) (wrappers : List Nat) : Prop :=
  f.node.cls.capability = .content →
    ∀ c, f.node.children = [c] → (c.id ∈ wrappers ↔ f.wrapped = true)

variable {f f' : Frame} {next : Nat} {place : Place} {steps : List BuildStep} {child : Node}

/-- A child that is put in its place is owned. -/
theorem HasRoom.owns_place (room : HasRoom f next f' place steps) (hf : f.Fits) (hn : f.node.Owns)
    (hchild : child.Owns) : (f'.place child place).node.Owns := by
  cases room with
  | direct takes empty => exact owns_addChild (hf.takes takes empty) hn hchild
  | inside wrapped =>
    obtain ⟨-, w, hw, hpanel⟩ := hf.wrapper wrapped
    have htakes := takes_of_panel hpanel
    obtain ⟨hparent, howns⟩ := owns_iff.1 hn w (by rw [hw]; exact List.mem_singleton_self w)
    rw [owns_iff, children_place_inWrapper hw]
    intro c hc
    rw [List.mem_singleton.1 hc, cls_addChild htakes, parent_addChild htakes]
    exact ⟨hparent, owns_addChild htakes howns hchild⟩
  | @wrapped content w single children unwrapped id bare panel =>
    obtain ⟨htakes, htakes'⟩ := takes_heldBy_of_panel panel f.node.id content
    have hcontent : content.Owns :=
      (owns_iff.1 hn content (by rw [children]; exact List.mem_singleton_self content)).2
    rw [owns_iff, children_place_inWrapper (w := (w.heldBy f.node.id).addChild content) rfl]
    intro c hc
    rw [List.mem_singleton.1 hc, cls_addChild htakes', parent_addChild htakes', cls_addChild htakes,
      parent_addChild htakes]
    refine ⟨fun hnode => ?_, owns_addChild htakes' (owns_addChild htakes ?_ hcontent) hchild⟩
    · rw [cls_heldBy] at hnode
      rw [heldBy, if_pos hnode]
      rfl
    · exact owns_of_bare (by rw [children_heldBy, bare])

/-- A node with one more child is still read through its wrapper exactly if it has one. -/
theorem HasRoom.reads_place (room : HasRoom f next f' place steps) (hf : f.Fits)
    (hreads : f.Reads wrappers) (hwrappers : ∀ w ∈ steps.filterMap BuildStep.wrapper?, w ∈ wrappers)
    (hchild : child.id ∉ wrappers) : (f'.place child place).Reads wrappers := by
  intro hcap c hc
  rw [cls_place hf room] at hcap
  rw [wrapped_place]
  cases room with
  | direct takes empty =>
    obtain ⟨child', hchildren, hid, -⟩ := (hf.takes takes empty).exists_owned child
    rw [Frame.place, hchildren, empty hcap] at hc
    obtain ⟨rfl, -⟩ := List.cons.inj hc
    rw [hid]
    refine ⟨fun hmem => absurd hmem hchild, fun hwrapped => ?_⟩
    obtain ⟨-, w, hw, -⟩ := hf.wrapper hwrapped
    rw [empty hcap] at hw
    cases hw
  | inside wrapped =>
    obtain ⟨-, w, hw, hpanel⟩ := hf.wrapper wrapped
    rw [children_place_inWrapper hw] at hc
    obtain ⟨rfl, -⟩ := List.cons.inj hc
    rw [id_addChild]
    exact hreads hcap w hw
  | @wrapped content w single children unwrapped id bare panel =>
    obtain ⟨htakes, htakes'⟩ := takes_heldBy_of_panel panel f.node.id content
    rw [children_place_inWrapper (w := (w.heldBy f.node.id).addChild content) rfl] at hc
    obtain ⟨rfl, -⟩ := List.cons.inj hc
    rw [id_addChild, id_addChild, id_heldBy, id]
    exact ⟨fun _ => rfl, fun _ => hwrappers next List.mem_cons_self⟩

/-- A child that is put in its place is read after what was there. -/
theorem HasRoom.mirrorsAll_place (room : HasRoom f next f' place steps) (hf : f.Fits)
    (hreads : f.Reads wrappers) (hwrappers : ∀ w ∈ steps.filterMap BuildStep.wrapper?, w ∈ wrappers)
    (hchild : child.id ∉ wrappers) {ds : List Descriptor} {d : Descriptor}
    (hds : MirrorsAll types wrappers ds (f.node.read wrappers))
    (hd : Mirrors types wrappers d child) :
    MirrorsAll types wrappers (ds ++ [d]) ((f'.place child place).node.read wrappers) := by
  have hcls := cls_place hf room child
  cases room with
  | direct takes empty =>
    obtain ⟨child', hchildren, hid, hcls', hbelow, -⟩ :=
      (hf.takes takes empty).exists_owned child
    have hd' : Mirrors types wrappers d child' := hd.congr hcls' hbelow
    by_cases hcap : f.node.cls.capability = .content
    · rw [read_of_bare (empty hcap)] at hds
      rw [empty hcap, List.nil_append] at hchildren
      rw [Frame.place, read_of_single hchildren (by rwa [hid])]
      exact hds.concat hd'
    · rw [read_of_ne_content hcap] at hds
      rw [read_of_ne_content (by rwa [hcls]), Frame.place, hchildren]
      exact hds.concat hd'
  | inside wrapped =>
    obtain ⟨hcap, w, hw, hpanel⟩ := hf.wrapper wrapped
    have htakes := takes_of_panel hpanel
    have hmem : w.id ∈ wrappers := (hreads hcap w hw).2 wrapped
    obtain ⟨child', hchildren, -, hcls', hbelow, -⟩ := htakes.exists_owned child
    rw [read_of_wrapper hcap hw hmem] at hds
    rw [read_of_wrapper (by rwa [hcls]) (children_place_inWrapper hw child)
      (by rwa [id_addChild]), hchildren]
    exact hds.concat (hd.congr hcls' hbelow)
  | @wrapped content w single children unwrapped id bare panel =>
    have hcontent : content.id ∉ wrappers := by
      rw [hreads single content children, unwrapped]
      exact Bool.false_ne_true
    obtain ⟨htakes, htakes'⟩ := takes_heldBy_of_panel panel f.node.id content
    obtain ⟨content', hfirst, -, hcls₁, hbelow₁, -⟩ := htakes.exists_owned content
    obtain ⟨child', hsecond, -, hcls₂, hbelow₂, -⟩ := htakes'.exists_owned child
    rw [children_heldBy, bare, List.nil_append] at hfirst
    rw [read_of_single children hcontent] at hds
    rw [read_of_wrapper (by rwa [hcls])
      (children_place_inWrapper (w := (w.heldBy f.node.id).addChild content) rfl child)
      (by rw [id_addChild, id_addChild, id_heldBy, id]
          exact hwrappers next List.mem_cons_self), hsecond, hfirst]
    exact (hds.congr_singleton hcls₁ hbelow₁).concat (hd.congr hcls₂ hbelow₂)

end Build

end LayoutTree
