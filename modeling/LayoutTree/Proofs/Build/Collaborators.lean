import LayoutTree.Build.Builder

/-!
# What a build relies on

A build works with code from elsewhere: node types that plugins register, setters, and the applier of
bindings. What it relies on is stated here. A type makes a new node (`NodeType.MakesNew`); setters
and the applier give back the node that they are given, with nothing put below it (`SameObject`).

The setters of the library do so (`keepsObject_standard`), and so does the applier that keeps
bindings on the nodes (`keepsObject_storeBinding`). The classes of modules make new nodes
(`makesNew_create`), and those of the library keep their children (`keepsChildren_standard`). So a
build can rely on all of them (`Builder.behaves_setup`).
-/

namespace LayoutTree

/-- Whether the nodes of a class keep the children that they take. -/
def NodeClass.KeepsChildren (c : NodeClass) : Prop := ∀ counter, c.capability ≠ .sink counter

instance (c : NodeClass) : Decidable c.KeepsChildren :=
  match h : c.capability with
  | .sink counter => .isFalse fun hkeeps => hkeeps counter h
  | .leaf | .panel | .content | .items => .isTrue fun _ hsink => by rw [h] at hsink; cases hsink

/-- A type makes new nodes of classes that keep their children, with nothing below them. -/
def NodeType.MakesNew (t : NodeType) : Prop :=
  ∀ id n, t.create id = .ok n → n.id = id ∧ n.children = [] ∧ n.cls.KeepsChildren

/-- A type makes new nodes of its own class. -/
structure NodeType.MakesOwn (t : NodeType) : Prop where
  new : t.MakesNew
  own : ∀ id n, t.create id = .ok n → n.cls = t.cls

/-- A node after something was assigned to it: it is the same object, and nothing was put below it.
-/
structure Node.SameObject (n n' : Node) : Prop where
  id : n'.id = n.id
  cls : n'.cls = n.cls
  children : n.children = [] → n'.children = []

/-- A setter that assigns values to the node that it is given. -/
structure Setter.KeepsObject (s : Setter) : Prop where
  apply : ∀ converters (n : Node) name value, n.SameObject (s.apply converters n name value).node
  applyLater : ∀ later, s.applyLater = some later →
    ∀ converters (n : Node) name value, n.SameObject (later converters n name value).node

/-- An applier that binds properties of the node that it is given. -/
def Applier.KeepsObject (applier : Applier) : Prop :=
  ∀ n target path n', applier n target path = .ok n' → n.SameObject n'

/-- What a build relies on, besides the types that it starts with: the types that it finds in modules
are known to be of some kind, and setters and the applier keep to the node. -/
structure Setup.Behaves (known : NodeType → Prop) (s : Setup) : Prop where
  modules : ∀ m ∈ s.modules, ∀ c ∈ m.classes, ∀ serial, known ⟨serial, c.name, c, c.create⟩
  setters : ∀ x ∈ s.setters.members, x.KeepsObject
  applier : s.applier.KeepsObject

/-! ## New nodes -/

theorem NodeClass.create_eq_ok {c : NodeClass} {id : Nat} {n : Node} (h : c.create id = .ok n) :
    n = .ofClass id c := by
  rw [NodeClass.create] at h
  split at h
  · cases h
  · exact (Except.ok.inj h).symm

theorem makesNew_create {serial : Nat} {name : String} {c : NodeClass} (h : c.KeepsChildren) :
    NodeType.MakesNew ⟨serial, name, c, c.create⟩ := by
  intro id n hn
  rw [NodeClass.create_eq_ok hn]
  exact ⟨rfl, rfl, h⟩

theorem makesOwn_create {serial : Nat} {name : String} {c : NodeClass} (h : c.KeepsChildren) :
    NodeType.MakesOwn ⟨serial, name, c, c.create⟩ where
  new := makesNew_create h
  own id n hn := by rw [NodeClass.create_eq_ok hn]; rfl

/-! ## Assignments -/

namespace Node.SameObject

theorem refl (n : Node) : n.SameObject n := ⟨rfl, rfl, fun h => h⟩

theorem trans {n n' n'' : Node} (h : n.SameObject n') (h' : n'.SameObject n'') : n.SameObject n'' :=
  ⟨h'.id.trans h.id, h'.cls.trans h.cls, fun hn => h'.children (h.children hn)⟩

end Node.SameObject

/-- Assigning to a slot puts nothing below a node. -/
theorem Node.sameObject_assign (n : Node) (slot : String) (v : Value) :
    n.SameObject (n.assign slot v) := by
  rw [Node.assign]
  split
  · exact ⟨rfl, rfl, fun _ => rfl⟩
  · exact ⟨rfl, rfl, fun h => h⟩

theorem Assignment.sameObject_ofConversion {n : Node} {r : Except ConversionFault Value}
    {assign : Value → Node} (h : ∀ v, n.SameObject (assign v)) :
    n.SameObject (Assignment.ofConversion n r assign).node := by
  cases r with
  | ok v => exact h v
  | error f => exact .refl n

theorem keepsObject_storeBinding : Applier.KeepsObject storeBinding := by
  intro n target path n' h
  rw [storeBinding] at h
  split at h
  · cases h
    exact ⟨rfl, rfl, fun h => h⟩
  · cases h

namespace Setter

theorem sameObject_assignDeclared (converters : Chain Converter) (n : Node) (a : Accessor)
    (value : String) : n.SameObject (assignDeclared converters n a value).node := by
  rw [assignDeclared]
  split
  · exact n.sameObject_assign _ _
  · split
    · exact n.sameObject_assign _ _
    · split
      · exact n.sameObject_assign _ _
      · exact .refl n
    · exact .refl n

theorem keepsObject_builtIn {name : String} {claims : Node → String → Bool}
    {apply : Chain Converter → Node → String → String → Assignment}
    (h : ∀ converters (n : Node) name value, n.SameObject (apply converters n name value).node) :
    (builtIn name claims apply).KeepsObject where
  apply := h
  applyLater later hlater := by cases hlater

/-- **The setters of the library keep to the node** that they are given. -/
theorem keepsObject_standard : ∀ x ∈ standard.members, x.KeepsObject := by
  intro x hx
  simp only [standard, List.mem_cons, List.not_mem_nil, or_false] at hx
  rcases hx with rfl | rfl | rfl | rfl | rfl | rfl <;>
    refine keepsObject_builtIn fun converters n name value => ?_
  · exact ⟨rfl, rfl, fun h => h⟩
  · split
    · exact Assignment.sameObject_ofConversion fun v => ⟨rfl, rfl, fun h => h⟩
    · exact .refl n
  · split
    · next tracks _ _ _ =>
      cases tracks <;> exact ⟨rfl, rfl, fun h => h⟩
    · exact .refl n
    · exact .refl n
  · exact ⟨rfl, rfl, fun h => h⟩
  · split
    · exact n.sameObject_assign _ _
    · exact .refl n
  · split
    · exact sameObject_assignDeclared converters n _ value
    · exact .refl n

end Setter

/-- A build with the setters of the library relies on the modules and the applier only. -/
theorem Builder.behaves_setup {known : NodeType → Prop} {b : Builder} {r : Registry}
    (hmodules : ∀ m ∈ b.modules, ∀ c ∈ m.classes, ∀ serial, known ⟨serial, c.name, c, c.create⟩)
    (hsetters : r.setters = Setter.standard) (happlier : b.applier.KeepsObject) (mode : Mode) :
    (b.setup r mode).Behaves known where
  modules := hmodules
  setters x hx := Setter.keepsObject_standard x (hsetters ▸ hx)
  applier := happlier

/-- The classes of the library keep their children. -/
theorem ModuleIndex.keepsChildren_standard :
    ∀ m ∈ standard, ∀ c ∈ m.classes, c.KeepsChildren := by
  decide

end LayoutTree
