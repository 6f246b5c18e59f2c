import LayoutTree.Build.Progress

/-!
# Making nodes

The type of a node is looked up by name and, where the settings ask for it, among the classes of
modules. A node that cannot be made is reported as failed, and the nodes below it as skipped.
-/

namespace LayoutTree.Build

open LayoutTree.Text

/-- What a type name stands for. Types that are found in modules are registered. -/
def findType (s : Setup) (d : Descriptor) (name : String) (p : Progress) : Stage (Option NodeType) :=
  match p.types.resolve name with
  | some t => .done (some t) p
  | none =>
    if !s.settings.autoRegister then .done none p
    else
      let (log, result) := p.types.autoRegister s.modules name s.settings.autoRegisterModules
      let p := { p with log := p.log ++ log }
      match result with
      | .error fault => .halted none p (.bare (.noModule fault))
      | .ok (none, types) => .done none { p with types }
      | .ok (some t, types) =>
        .done (some t) ({ p with types }.emit d none .info ("Auto-registered type " ++ quoted t.name))

/-- The nodes below a node reported as skipped for a reason. -/
def skipBelow (d : Descriptor) (reason : String) (p : Progress) : Progress :=
  let below := d.children.flatMap Descriptor.walk
  let p := below.foldl (fun p b => p.addNode (.ofState b.typeName .skipped b.source)) p
  if below.isEmpty then p
  else p.emit d none .warning
    ("Skipped " ++ toString below.length ++ " descendant node(s): " ++ reason)

/-- A node that cannot be made is reported. -/
def failNode (s : Setup) (d : Descriptor) (fault : BuildFault) (reason : String) (p : Progress) :
    Stage (Option Node) :=
  let p := (p.addNode (.ofState d.typeName .failed d.source)).emit d none .error fault.message
  if s.settings.stopOnError then .halted none p (.ofDescriptor fault d none)
  else .done none (skipBelow d reason p)

/-- The node that a descriptor asks for, without its properties. -/
def createNode (s : Setup) (d : Descriptor) (p : Progress) : Stage (Option Node) :=
  let found := findType s d d.typeName p
  match found.halt, found.value with
  | some h, _ => .halted none found.progress h
  | none, none => failNode s d (.unknownType d.typeName) "parent type is unknown" found.progress
  | none, some t =>
    let p := found.progress
    match t.create p.nextId with
    | .ok n => .done (some n) ({ p with nextId := p.nextId + 1 }.take (.create n.id))
    | .error message =>
      failNode s d (.notCreated d.typeName message) "parent could not be created" p

end LayoutTree.Build
