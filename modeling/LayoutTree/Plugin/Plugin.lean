import LayoutTree.Registry.Registry

/-!
# Plugins

A plugin extends a registry when it is loaded: it takes its actions in order, and may fail after
them. What its actions registered is kept in a `PluginRecord`, which is all that is needed to take
them back.
-/

namespace LayoutTree

/-- Something that is run when a plugin is unloaded. -/
structure Callback where
  /-- What it is known by. -/
  label : String
  /-- Why it fails, if so. -/
  failure : Option String
  deriving DecidableEq, Repr

/-- What a plugin does while it is loaded. -/
inductive PluginAction
  /-- Registers a node type. -/
  | type (name : String) (cls : NodeClass)
  /-- Registers a setter. -/
  | setter (s : Setter)
  /-- Registers a validator. -/
  | validator (v : Validator)
  /-- Registers a converter. -/
  | converter (c : Converter)
  /-- Asks for something to be run when it is unloaded. -/
  | cleanup (c : Callback)
  /-- Writes a warning to its log. -/
  | warn (text : String)

/-- A plugin. -/
structure Plugin where
  name : String
  version : String
  description : String
  /-- What it does while it is loaded. -/
  actions : List PluginAction
  /-- Why it fails after its actions, if so. -/
  failure : Option String
  /-- What is run last when it is unloaded. -/
  shutdown : Callback

/-- The written form of a plugin. -/
def Plugin.text (p : Plugin) : String :=
  "<Plugin " ++ Text.quoted p.name ++ " " ++ p.version ++ ">"

/-- A node type that a plugin registered. -/
structure TypeRegistration where
  /-- The name it was registered under. -/
  name : String
  /-- The type. -/
  nodeType : NodeType
  /-- What the name stood for before. -/
  previous : Option NodeType

/-- All that a plugin registered, each kind in order. -/
structure PluginRecord where
  types : List TypeRegistration
  setters : List Setter
  validators : List Validator
  converters : List Converter
  cleanups : List Callback

namespace PluginRecord

/-- The record of a plugin that has not registered anything. -/
def empty : PluginRecord := ⟨[], [], [], [], []⟩

/-- Whether nothing is on record. -/
def isEmpty (r : PluginRecord) : Bool :=
  r.types.isEmpty && r.setters.isEmpty && r.validators.isEmpty && r.converters.isEmpty &&
    r.cleanups.isEmpty

end PluginRecord

/-- A summary of a loaded plugin. -/
structure PluginInfo where
  name : String
  version : String
  description : String
  types : Nat
  setters : Nat
  validators : Nat
  converters : Nat
  typeNames : List String
  deriving DecidableEq, Repr

/-- The summary of a plugin with a record. -/
def PluginInfo.ofRecord (p : Plugin) (r : PluginRecord) : PluginInfo where
  name := p.name
  version := p.version
  description := p.description
  types := r.types.length
  setters := r.setters.length
  validators := r.validators.length
  converters := r.converters.length
  typeNames := r.types.map (·.name)

/-! ## Taking actions -/

/-- The log of a plugin. -/
def Plugin.channel (name : String) : String := "dynui.plugins." ++ name

/-- What taking actions leads to. -/
structure Initialization where
  registry : Registry
  record : PluginRecord
  log : Log

namespace PluginAction

/-- One action of a plugin of that name. -/
def take (plugin : String) (i : Initialization) : PluginAction → Initialization
  | .type name cls =>
    let (previous, types) := i.registry.types.register name cls
    let registered := (types.resolve name).map fun t => (⟨name, t, previous⟩ : TypeRegistration)
    { i with
      registry := i.registry.withTypes types
      record := { i.record with types := i.record.types ++ registered.toList } }
  | .setter s =>
    { i with
      registry := i.registry.addSetter s
      record := { i.record with setters := i.record.setters ++ [s] } }
  | .validator v =>
    { i with
      registry := i.registry.addValidator v
      record := { i.record with validators := i.record.validators ++ [v] } }
  | .converter c =>
    { i with
      registry := i.registry.addConverter c
      record := { i.record with converters := i.record.converters ++ [c] } }
  | .cleanup c => { i with record := { i.record with cleanups := i.record.cleanups ++ [c] } }
  | .warn text => { i with log := i.log ++ [⟨.warning, Plugin.channel plugin, text⟩] }

end PluginAction

/-- All actions of a plugin on a registry. -/
def Plugin.takeAll (p : Plugin) (r : Registry) : Initialization :=
  p.actions.foldl (PluginAction.take p.name) ⟨r, .empty, []⟩

/-! ## Taking them back -/

namespace PluginRecord

/-- The part of the program that reports about loading and unloading. -/
def channel : String := "dynui.plugins.manager"

/-- One registered type taken back, unless its name stands for another type by now. -/
def revertType (plugin : String) (state : TypeRegistry × Log) (t : TypeRegistration) :
    TypeRegistry × Log :=
  let (types, log) := state
  let isOther := (types.resolve t.name).any fun current => current.serial ≠ t.nodeType.serial
  if isOther then
    (types, log ++ [⟨.warning, channel, "Type " ++ Text.quoted t.name ++ " was replaced after "
      ++ Text.quoted plugin ++ " registered it; kept"⟩])
  else
    match t.previous with
    | some previous => (types.restore previous, log)
    | none => ((types.unregister t.name).2, log)

/-- All on record taken back: the types from the last to the first, then the rest. -/
def revert (plugin : String) (record : PluginRecord) (r : Registry) : Registry × Log :=
  let (types, log) := record.types.reverse.foldl (revertType plugin) (r.types, [])
  let r := r.withTypes types
  let r := record.setters.foldl (fun r s => r.dropSetter s.key) r
  let r := record.validators.foldl (fun r v => r.dropValidator v.key) r
  (record.converters.foldl (fun r c => r.dropConverter c.key) r, log)

end PluginRecord

end LayoutTree
