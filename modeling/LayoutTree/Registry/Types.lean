import LayoutTree.Diagnostic.Log
import LayoutTree.Node.Node
import LayoutTree.Registry.Module

/-!
# Node types

Layouts name the types of their nodes; a `TypeRegistry` says what the names stand for. Names are
matched without regard to case. A type that is registered under a name in use takes the place of the
earlier one.

* `TypeRegistry.resolve_register`: a name stands for what was registered last under it.
* `TypeRegistry.autoRegister`: an unknown name can be looked for among the classes of modules.
-/

namespace LayoutTree

open LayoutTree.Text

/-- What a type name stands for. -/
structure NodeType where
  /-- What tells the registration apart from others. -/
  serial : Nat
  /-- The name as it was registered. -/
  name : String
  /-- The class of the nodes. -/
  cls : NodeClass
  /-- Makes a node with an identity, or says why it cannot be made. -/
  create : Nat → Except String Node

/-- A node of a class, or the reason why none can be made. -/
def NodeClass.create (cls : NodeClass) (id : Nat) : Except String Node :=
  match cls.constructionFailure with
  | some message => .error message
  | none => .ok (.ofClass id cls)

/-- Types by name, in the order in which the names were first registered. -/
structure TypeRegistry where
  /-- The types, each with what its name is matched by. -/
  entries : List (String × NodeType)
  /-- The serial of the next registration. -/
  next : Nat

namespace TypeRegistry

/-- A registry without types. -/
def empty : TypeRegistry := ⟨[], 0⟩

/-- What the name of a type is matched by. -/
def typeKey (name : String) : String := folded name

/-- What a name stands for. -/
def resolve (r : TypeRegistry) (name : String) : Option NodeType :=
  r.entries.lookup (typeKey name)

/-- Whether a name stands for a type. -/
def contains (r : TypeRegistry) (name : String) : Bool := (r.resolve name).isSome

/-- The names as they were registered. -/
def names (r : TypeRegistry) : List String := r.entries.map (·.2.name)

/-- Nodes made by a function stand behind a name. Gives what the name stood for before. -/
def registerWith (r : TypeRegistry) (name : String) (cls : NodeClass)
    (create : Nat → Except String Node) : Option NodeType × TypeRegistry :=
  (r.resolve name, ⟨putNamed (typeKey name) ⟨r.next, name, cls, create⟩ r.entries, r.next + 1⟩)

/-- Nodes of a class stand behind a name. Gives what the name stood for before. -/
def register (r : TypeRegistry) (name : String) (cls : NodeClass) : Option NodeType × TypeRegistry :=
  r.registerWith name cls cls.create

/-- A name stands for nothing. Gives what it stood for before. -/
def unregister (r : TypeRegistry) (name : String) : Option NodeType × TypeRegistry :=
  (r.resolve name, { r with entries := r.entries.filter fun e => e.1 ≠ typeKey name })

/-- A type stands behind its name again. -/
def restore (r : TypeRegistry) (t : NodeType) : TypeRegistry :=
  { r with entries := putNamed (typeKey t.name) t r.entries }

/-- Classes stand behind their names. -/
def registerAll (r : TypeRegistry) (classes : List NodeClass) : TypeRegistry :=
  classes.foldl (fun r c => (r.register c.name c).2) r

/-- The part of the program that reports about types. -/
def channel : String := "dynui.registry"

/-- The class of a module that a type name names. -/
def classNamed? (m : TypeModule) (name : String) : Option NodeClass :=
  m.classes.find? fun c => typeKey c.name = typeKey name

/-- A class that a name names is looked for in modules and registered under its own name. Modules
that do not exist are reported and passed over. -/
def autoRegister (index : ModuleIndex) (r : TypeRegistry) (name : String) :
    List String → Log × Except ModuleFault (Option NodeType × TypeRegistry)
  | [] => ([], .ok (none, r))
  | m :: rest =>
    match index.find m with
    | .error (.missing _) =>
      let (log, result) := autoRegister index r name rest
      let text := "Auto-registration module " ++ quoted m ++ " cannot be imported"
      (⟨.warning, channel, text⟩ :: log, result)
    | .error fault => ([], .error fault)
    | .ok found =>
      match classNamed? found name with
      | some c =>
        let r := (r.register c.name c).2
        let text := "Auto-registered " ++ c.name ++ " from " ++ found.name
        ([⟨.debug, channel, text⟩], .ok (r.resolve name, r))
      | none => autoRegister index r name rest

/-! ## Laws -/

theorem resolve_registerWith (r : TypeRegistry) (name : String) (cls : NodeClass)
    (create : Nat → Except String Node) :
    (r.registerWith name cls create).2.resolve name = some ⟨r.next, name, cls, create⟩ := by
  simp [registerWith, resolve, lookup_putNamed_self]

theorem resolve_register (r : TypeRegistry) (name : String) (cls : NodeClass) :
    (r.register name cls).2.resolve name = some ⟨r.next, name, cls, cls.create⟩ :=
  resolve_registerWith r name cls cls.create

theorem resolve_register_of_ne (r : TypeRegistry) {name other : String} (cls : NodeClass)
    (h : typeKey other ≠ typeKey name) : (r.register name cls).2.resolve other = r.resolve other := by
  simp [register, registerWith, resolve, lookup_putNamed_ne _ _ h]

end TypeRegistry

end LayoutTree
