import LayoutTree.Build.Builder
import LayoutTree.Proofs.Build.Advance
import LayoutTree.Proofs.Node.Accessor
import Mathlib.Data.List.Induction

/-!
# What entries make of a node

The properties of a node are gone through in order, and with the setters of the library the node
after an entry is a function of the node before it (`entryNode`, `node_applyProperty`). An entry
leaves the slots of other properties alone (`sameOutside_entryNode`), since the slot behind a
property has the key of the property (`NodeClass.propertyKey_slot`).

* `node_applyProperties_append`: the node after one more entry.
-/

namespace LayoutTree

open LayoutTree.Text LayoutTree.Number LayoutTree.Validator

/-! ## Slots of other properties -/

namespace Node

theorem cls_assign (n : Node) (slot : String) (v : Value) : (n.assign slot v).cls = n.cls := by
  simp only [assign]
  split <;> rfl

theorem slots_assign (n : Node) (slot : String) (v : Value) :
    (n.assign slot v).slots = putNamed slot v n.slots := by
  simp only [assign]
  split <;> rfl

theorem slot?_assign_ne {n : Node} {slot other : String} (v : Value) (h : other ≠ slot) :
    (n.assign slot v).slot? other = n.slot? other := by
  rw [slot?, slots_assign, lookup_putNamed_ne v n.slots h, slot?]

end Node

/-- A node as another is, but for the slots behind a property. -/
structure Node.SameOutside (name : String) (n m : Node) : Prop where
  cls : m.cls = n.cls
  slot : ∀ slot, propertyKey slot ≠ propertyKey name → m.slot? slot = n.slot? slot

namespace Node.SameOutside

variable {name : String} {n : Node}

theorem refl (name : String) (n : Node) : SameOutside name n n := ⟨rfl, fun _ _ => rfl⟩

theorem of_slots {m : Node} (hcls : m.cls = n.cls) (hslots : m.slots = n.slots) :
    SameOutside name n m :=
  ⟨hcls, fun slot _ => by rw [slot?, slot?, hslots]⟩

theorem assign {a : Accessor} (h : n.cls.accessor? name = some a) (v : Value) :
    SameOutside name n (n.assign a.slot v) := by
  refine ⟨cls_assign n a.slot v, fun slot hslot => slot?_assign_ne v ?_⟩
  rintro rfl
  exact hslot (NodeClass.propertyKey_slot h)

end Node.SameOutside

/-! ## Setters of the library -/

theorem Setter.sameOutside_assignDeclared (converters : Chain Converter) {n : Node} {name : String}
    {a : Accessor} (ha : n.cls.accessor? name = some a) (value : String) :
    Node.SameOutside name n (assignDeclared converters n a value).node := by
  rw [assignDeclared]
  split
  · exact .assign ha _
  · split
    · exact .assign ha _
    · split
      · exact .assign ha _
      · exact .refl name n
    · exact .refl name n

/-- Most setters of the library leave the slots of a node alone. Those that do not are the one of
image sources, whose slot is that of `source` whatever name it goes by, and the one of declared
properties. -/
theorem Setter.slots_standard {setter : Setter} (h : setter ∈ Setter.standard.members)
    (converters : Chain Converter) (n : Node) (name value : String) :
    ((setter.apply converters n name value).node.cls = n.cls ∧
        (setter.apply converters n name value).node.slots = n.slots) ∨
      Node.SameOutside "source" n (setter.apply converters n name value).node ∨
      setter = declared := by
  simp only [standard, List.mem_cons, List.not_mem_nil, or_false] at h
  rcases h with rfl | rfl | rfl | rfl | rfl | rfl
  · exact .inl ⟨rfl, rfl⟩
  · left
    simp only [attachedProperty, builtIn]
    split
    · next type _ =>
      cases Conversion.convert converters (some value) type with
      | ok v => exact ⟨rfl, rfl⟩
      | error f => exact ⟨rfl, rfl⟩
    · exact ⟨rfl, rfl⟩
  · left
    simp only [gridTracks, builtIn]
    split
    · next tracks sizes _ _ =>
      cases tracks with
      | columns => exact ⟨rfl, rfl⟩
      | rows => exact ⟨rfl, rfl⟩
    · exact ⟨rfl, rfl⟩
    · exact ⟨rfl, rfl⟩
  · exact .inl ⟨rfl, rfl⟩
  · right
    left
    simp only [imageSource, builtIn]
    split
    · next a ha => exact .assign ha _
    · exact .refl _ n
  · exact .inr (.inr rfl)

/-- A setter of the library leaves the slots of other properties alone. -/
theorem Setter.sameOutside_standard {setter : Setter} (h : setter ∈ Setter.standard.members)
    (converters : Chain Converter) (n : Node) (name value : String) :
    Node.SameOutside name n (setter.apply converters n name value).node ∨
      Node.SameOutside "source" n (setter.apply converters n name value).node := by
  rcases slots_standard h converters n name value with ⟨hcls, hslots⟩ | hsource | rfl
  · exact .inl (.of_slots hcls hslots)
  · exact .inr hsource
  · left
    simp only [declared, builtIn]
    split
    · next a ha => exact sameOutside_assignDeclared converters ha value
    · exact .refl name n

/-- The setters of the library assign in every build alike. -/
theorem Setter.applyLater_standard {setter : Setter} (h : setter ∈ Setter.standard.members) :
    setter.applyLater = none := by
  simp only [standard, List.mem_cons, List.not_mem_nil, or_false] at h
  rcases h with rfl | rfl | rfl | rfl | rfl | rfl
  all_goals rfl

/-! ## One entry -/

/-- The setters, validators and converters of a build are those of the library, it validates, and
bindings leave the slots of a node alone. -/
structure Setup.IsStandard (s : Setup) : Prop where
  setters : s.setters = Setter.standard
  validators : s.validators = Validator.standard
  converters : s.converters = Converter.standard
  validates : s.settings.validateProperties = true
  binds : ∀ n target path m, s.applier n target path = .ok m → m.cls = n.cls ∧ m.slots = n.slots

namespace Build

variable {s : Setup} {d : Descriptor}

theorem assignment_eq {setter : Setter} (hsetter : setter.applyLater = none) (name value : String)
    (n : Node) : assignment s setter name value n = setter.apply s.converters n name value := by
  rw [assignment, hsetter]
  split
  · next heq => cases heq
  · rfl

theorem node_assign {setter : Setter} (hsetter : setter.applyLater = none) (name value : String)
    (w : Work) (p : Progress) :
    (assign s d setter name value w p).value.node =
      (setter.apply s.converters w.node name value).node := by
  have hfailed : ∀ (message : String) (w : Work) (p : Progress),
      (failAssignment s d name value message w p).value.node = w.node := fun _ _ _ => rfl
  rw [assign, assignment_eq hsetter]
  split
  · rw [Stage.done, count_node]
  · rw [hfailed]

/-- What an entry makes of a node. -/
def entryNode (s : Setup) (d : Descriptor) (entry : Property) (n : Node) : Node :=
  if entry.name.isEmpty then n
  else
    match entry.value, bindingTarget? entry.name with
    | none, _ => n
    | some path, some target => (s.applier n target path).toOption.getD n
    | some value, none =>
      if (check s d entry.name value n).isValid = false ∨
          propertyKey entry.name = dataContextKey then n
      else
        match Setter.find? s.setters n entry.name with
        | some setter => (setter.apply s.converters n entry.name value).node
        | none => n

theorem node_bind (name target path : String) (w : Work) (p : Progress) :
    (bind s d name target path w p).value.node =
      (s.applier w.node target path).toOption.getD w.node := by
  simp only [bind]
  cases s.applier w.node target path with
  | ok node => exact count_node _ _
  | error message => exact count_node _ _

theorem node_dispatch (hsetters : ∀ m ∈ s.setters.members, m.applyLater = none)
    (name value : String) (w : Work) (p : Progress) :
    (dispatch s d name value w p).value.node =
      if propertyKey name = dataContextKey then w.node
      else
        match Setter.find? s.setters w.node name with
        | some setter => (setter.apply s.converters w.node name value).node
        | none => w.node := by
  rw [dispatch]
  split
  · split
    · exact count_node _ _
    · exact count_node _ _
  · cases hfind : Setter.find? s.setters w.node name with
    | some setter =>
      exact node_assign (hsetters _ (List.mem_of_find?_eq_some hfind)) name value w p
    | none => exact count_node _ _

/-- An entry makes of the node what `entryNode` says, unless the build has been cancelled. -/
theorem node_applyProperty (hsetters : ∀ m ∈ s.setters.members, m.applyLater = none)
    (entry : Property) (w : Work) (p : Progress) :
    (applyProperty s d entry w p).value.node =
      if p.cancelled then w.node else entryNode s d entry w.node := by
  rw [applyProperty, entryNode]
  split
  · rfl
  · split
    · exact count_node w _
    · cases entry.value with
      | none => exact count_node w _
      | some value =>
        cases bindingTarget? entry.name with
        | some target => exact node_bind _ _ _ _ _
        | none =>
          dsimp only
          rw [validateAndDispatch]
          cases hvalid : (check s d entry.name value w.node).isValid with
          | true =>
            simp only [if_true, node_dispatch hsetters, Bool.true_eq_false, false_or]
          | false =>
            simp only [Bool.false_eq_true, if_false, true_or, if_true]
            exact count_node w _

/-- An entry leaves the class of the node and the slots of other properties alone. -/
theorem sameOutside_entryNode (hs : s.IsStandard) (entry : Property) (n : Node) :
    Node.SameOutside entry.name n (entryNode s d entry n) ∨
      Node.SameOutside "source" n (entryNode s d entry n) := by
  rw [entryNode]
  split
  · exact .inl (.refl _ n)
  · split
    · exact .inl (.refl _ n)
    · next path target _ _ =>
      left
      cases hbind : s.applier n target path with
      | ok node =>
        obtain ⟨hcls, hslots⟩ := hs.binds _ _ _ _ hbind
        exact .of_slots hcls hslots
      | error message => exact .refl _ n
    · next value _ _ =>
      split
      · exact .inl (.refl _ n)
      · split
        · next setter hfind =>
          have hmem : setter ∈ Setter.standard.members :=
            hs.setters ▸ List.mem_of_find?_eq_some hfind
          exact Setter.sameOutside_standard hmem s.converters n entry.name value
        · exact .inl (.refl _ n)

theorem cls_entryNode (hs : s.IsStandard) (entry : Property) (n : Node) :
    (entryNode s d entry n).cls = n.cls :=
  (sameOutside_entryNode hs entry n).elim Node.SameOutside.cls Node.SameOutside.cls

/-! ## All entries -/

theorem applyProperties_append (s : Setup) (d : Descriptor) (entries more : List Property)
    (w : Work) (p : Progress) :
    applyProperties s d (entries ++ more) w p =
      (applyProperties s d entries w p).andThen (applyProperties s d more) := by
  induction entries generalizing w p with
  | nil => rfl
  | cons entry rest ih =>
    rw [List.cons_append, applyProperties, applyProperties]
    cases hhalt : (applyProperty s d entry w p).halt with
    | none => simp only [Stage.andThen, hhalt, Option.isSome_none, Bool.false_eq_true, if_false, ih]
    | some h => simp only [Stage.andThen, hhalt, Option.isSome_some, if_true]

/-- One more entry is gone through if the entries before it do not end the build. -/
theorem value_applyProperties_append (s : Setup) (d : Descriptor) (entries : List Property)
    (entry : Property) (w : Work) (p : Progress) :
    (applyProperties s d (entries ++ [entry]) w p).value =
      (let reached := applyProperties s d entries w p
      if reached.halt.isSome then reached.value
      else (applyProperty s d entry reached.value reached.progress).value) := by
  rw [applyProperties_append]
  generalize applyProperties s d entries w p = reached
  dsimp only
  rw [Stage.andThen]
  split
  · rfl
  · rw [applyProperties, Stage.andThen]
    split
    · rfl
    · rfl

/-- One more entry makes of the node what it makes of it, if the build comes to it. -/
theorem node_applyProperties_append (hsetters : ∀ m ∈ s.setters.members, m.applyLater = none)
    (entries : List Property) (entry : Property) (w : Work) (p : Progress) :
    (applyProperties s d (entries ++ [entry]) w p).value.node =
      (let reached := applyProperties s d entries w p
      if reached.halt.isSome ∨ reached.progress.cancelled = true then reached.value.node
      else entryNode s d entry reached.value.node) := by
  rw [value_applyProperties_append]
  generalize applyProperties s d entries w p = reached
  dsimp only
  split
  · next hhalt => rw [if_pos (.inl hhalt)]
  · next hhalt =>
    rw [node_applyProperty hsetters]
    cases hcancelled : reached.progress.cancelled with
    | true => rw [if_pos rfl, if_pos (.inr rfl)]
    | false => rw [if_neg Bool.false_ne_true, if_neg (by simp [hhalt])]

end Build

end LayoutTree
