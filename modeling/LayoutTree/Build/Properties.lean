import LayoutTree.Build.Types
import LayoutTree.Node.Binding

/-!
# Assigning properties

The properties of a node are gone through in order. Each of them counts once in the result of the
node: as applied, skipped, blocked by validation, or failed (`Tally`). Before each the build can be
cancelled.
-/

namespace LayoutTree.Build

open LayoutTree.Text

/-- A node at work. -/
structure Work where
  node : Node
  /-- What has become of its properties. -/
  result : NodeResult
  /-- The data context that its own properties ask for. -/
  context : Option Value

/-- What a property counts as. -/
inductive Tally
  | applied
  | skipped
  | blocked
  | failed
  deriving DecidableEq, Repr

namespace Work

/-- One more property counted. -/
def count (w : Work) (t : Tally) : Work :=
  let r := w.result
  match t with
  | .applied => { w with result := { r with applied := r.applied + 1 } }
  | .skipped => { w with result := { r with skipped := r.skipped + 1 } }
  | .blocked => { w with result := { r with blocked := r.blocked + 1 } }
  | .failed => { w with result := { r with failed := r.failed + 1 } }

end Work

/-! ## Data contexts -/

/-- The value that stands for a handle, if any does. -/
def someValue : Value → Option Value
  | .none => none
  | v => some v

/-- The data context of a handle. Without a resolver it is the handle itself. -/
def resolveHandle (s : Setup) (d : Descriptor) (handle : String) (p : Progress) :
    Option Value × Progress :=
  let warn := fun (p : Progress) text => p.emit d none .warning text
  match s.resolver with
  | none => (some (.text handle), p)
  | some resolver =>
    match resolver handle with
    | .value v => (someValue v, p.take (.resolve handle))
    | .failed message =>
      (none, warn (p.take (.resolve handle))
        ("Data context " ++ quoted handle ++ " could not be resolved: " ++ message))
    | .later result =>
      if !s.mode.waits then
        (none, warn p "Asynchronous data context resolver used in a synchronous build")
      else
        let p := (p.wait s.mode).take (.resolve handle)
        match result with
        | .ok v => (someValue v, p)
        | .error message => (none, warn p ("Data context could not be resolved: " ++ message))

/-! ## Single properties -/

/-- An assignment that failed is reported. -/
def failAssignment (s : Setup) (d : Descriptor) (name value message : String) (w : Work)
    (p : Progress) : Stage Work :=
  let fault := BuildFault.notAssigned value message
  .haltedIf s.settings.stopOnError (w.count .failed) (p.emit d (some name) .error fault.message)
    (.ofDescriptor fault d (some name))

/-- A property bound to a path. -/
def bind (s : Setup) (d : Descriptor) (name target path : String) (w : Work) (p : Progress) :
    Stage Work :=
  let p := p.take (.bind w.node.id w.node.cls.name target path)
  match s.applier w.node target path with
  | .ok node => .done ({ w with node }.count .applied) p
  | .error message => failAssignment s d name path message w p

/-- How a setter assigns in a build. Only a build that waits can wait for it. -/
def assignment (s : Setup) (setter : Setter) (name value : String) (n : Node) : Assignment :=
  match s.mode, setter.applyLater with
  | .waiting _, some later => later s.converters n name value
  | _, _ => setter.apply s.converters n name value

/-- A raw value given to a setter. -/
def assign (s : Setup) (d : Descriptor) (setter : Setter) (name value : String) (w : Work)
    (p : Progress) : Stage Work :=
  let a := assignment s setter name value w.node
  let p := ((p.take (.assign w.node.id name)).wait s.mode).hear s.mode a.cancels
  let p := { p with log := p.log ++ a.log }
  let w := { w with node := a.node }
  match a.failure with
  | none => .done (w.count .applied) p
  | some failure => failAssignment s d name value failure.message w p

/-- What validation finds about a raw value. -/
def check (s : Setup) (d : Descriptor) (name value : String) (n : Node) : Validation :=
  if s.settings.validateProperties then
    Validator.validate s.validators (.ofSource s.files d.source) n name value
  else .clean

/-- A raw value that is not blocked goes to the data context or to the first setter that claims the
property. -/
def dispatch (s : Setup) (d : Descriptor) (name value : String) (w : Work) (p : Progress) :
    Stage Work :=
  if propertyKey name = Validator.dataContextKey then
    if (trim value.toList).isEmpty then .done (w.count .skipped) p
    else
      let (context, p) := resolveHandle s d value p
      .done ({ w with context }.count .applied) p
  else
    match Setter.find? s.setters w.node name with
    | some setter => assign s d setter name value w p
    | none =>
      .done (w.count .skipped) (p.emit d (some name) .warning "No setter handles the property")

/-- A raw value of a property that is no binding. -/
def validateAndDispatch (s : Setup) (d : Descriptor) (name value : String) (w : Work) (p : Progress) :
    Stage Work :=
  let found := check s d name value w.node
  let p := p.emitAll d (some name) .warning found.warnings
  if found.isValid then dispatch s d name value w p
  else
    .haltedIf s.settings.stopOnError (w.count .blocked) (p.emitAll d (some name) .error found.errors)
      (.ofDescriptor (.rejected name found.errors) d (some name))

/-- One property of a node. -/
def applyProperty (s : Setup) (d : Descriptor) (entry : Property) (w : Work) (p : Progress) :
    Stage Work :=
  if p.cancelled then .halted w p (.bare .cancelled)
  else if entry.name.isEmpty then .done (w.count .skipped) p
  else
    match entry.value with
    | none => .done (w.count .skipped) (p.emit d (some entry.name) .warning "Property has no value")
    | some value =>
      match bindingTarget? entry.name with
      | some target => bind s d entry.name target value w p
      | none => validateAndDispatch s d entry.name value w p

/-- Properties of a node in order. -/
def applyProperties (s : Setup) (d : Descriptor) : List Property → Work → Progress → Stage Work
  | [], w, p => .done w p
  | entry :: rest, w, p => (applyProperty s d entry w p).andThen (applyProperties s d rest)

/-- The data context of the group of a node. -/
def groupContext (s : Setup) (d : Descriptor) (p : Progress) : Option Value × Progress :=
  match d.group with
  | some group => if group.isEmpty then (none, p) else resolveHandle s d group p
  | none => (none, p)

end LayoutTree.Build
