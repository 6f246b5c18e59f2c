import LayoutTree.Build.Attachment
import LayoutTree.Build.Properties

/-!
# Building forests

Descriptors become nodes in the order in which they are written, each before those below it: a node
is made, gets its properties, is attached, and then the nodes below it follow (`buildNode`,
`buildAll`). Direct builds and those that wait take the same course; the latter wait after each
node.
-/

namespace LayoutTree.Build

/-- Makes the work on a new node: its group is resolved and its properties are assigned. -/
def fill (s : Setup) (d : Descriptor) (n : Node) (p : Progress) : Option Value × Stage Work :=
  let (context, p) := groupContext s d p
  (context, applyProperties s d d.properties ⟨n, .ofState d.typeName .success d.source, none⟩ p)

/-- A node with its data context, if it has one and can have one. -/
def giveContext (d : Descriptor) (context : Option Value) (n : Node) (p : Progress) :
    Node × Progress :=
  match context, n.cls.contextRefusal with
  | none, _ => (n, p)
  | some v, none => ({ n with dataContext := some v }, p)
  | some _, some message =>
    (n, p.emit d none .warning ("Data context cannot be assigned: " ++ message))

/-- A node that is finished but for the nodes below it. -/
structure Finished where
  /-- The parent, with room for the node. -/
  frame : Frame
  node : Node
  /-- The place of the node below its parent, unless it was dropped. -/
  place : Option Place
  /-- Whether the nodes below it are to be built. -/
  goesOn : Bool

/-- Finishes a node: it gets its data context and its place. -/
def finish (s : Setup) (d : Descriptor) (f : Frame) (group : Option Value) (w : Work) (p : Progress) :
    Stage Finished :=
  let (n, p) := giveContext d (w.context.or group) w.node p
  let attached := attach s d f p
  let (f, place) := attached.value
  match attached.halt, place with
  | some h, _ => .halted ⟨f, n, none, false⟩ attached.progress h
  | none, none =>
    let p := (attached.progress.addNode { w.result with state := .skipped }).take (.drop n.id)
    .done ⟨f, n, none, false⟩ (skipBelow d "parent node was dropped" p)
  | none, some place =>
    let p := (attached.progress.addNode w.result).take (.attach f.node.id n.id)
    if !d.children.isEmpty && !n.cls.holdsChildren then
      .done ⟨f, n, some place, false⟩ (skipBelow d (n.cls.name ++ " cannot hold children") p)
    else .done ⟨f, n, some place, true⟩ p

/-- All of a node but the nodes below it. -/
def start (s : Setup) (d : Descriptor) (f : Frame) (p : Progress) : Stage (Option Finished) :=
  if p.cancelled then .halted none p (.bare .cancelled)
  else
    let made := createNode s d p
    match made.halt, made.value with
    | some h, _ => .halted none made.progress h
    | none, none => .done none made.progress
    | none, some n =>
      let (group, filled) := fill s d n made.progress
      match filled.halt with
      | some h => .halted none (filled.progress.addNode filled.value.result) h
      | none =>
        let finished := finish s d f group filled.value filled.progress
        match finished.halt with
        | some h => .halted none finished.progress h
        | none => .done (some finished.value) (finished.progress.wait s.mode)

mutual

/-- Builds a descriptor below a node. -/
def buildNode (s : Setup) : Descriptor → Frame → Progress → Stage Frame
  | .mk typeName properties group children source, f, p =>
    let started := start s ⟨typeName, properties, group, children, source⟩ f p
    match started.halt, started.value with
    | some h, _ => .halted f started.progress h
    | none, none => .done f started.progress
    | none, some n =>
      match n.place with
      | none => .done n.frame started.progress
      | some place =>
        if n.goesOn then
          let below := buildAll s children ⟨n.node, false⟩ started.progress
          ⟨n.frame.place below.value.node place, below.progress, below.halt⟩
        else .done (n.frame.place n.node place) started.progress

/-- Builds descriptors below a node, in order. -/
def buildAll (s : Setup) : List Descriptor → Frame → Progress → Stage Frame
  | [], f, p => .done f p
  | d :: rest, f, p =>
    let first := buildNode s d f p
    match first.halt with
    | some h => .halted first.value first.progress h
    | none => buildAll s rest first.value first.progress

end

end LayoutTree.Build
