import LayoutTree.Data.Step
import LayoutTree.Json.Reader
import LayoutTree.Json.Writer
import LayoutTree.Layout.Defaults
import LayoutTree.Layout.Source

/-!
# Layout documents

The schema that layouts in structured data follow: default properties by type, and controls with a
type, a group, properties and children. `Document.read` checks a value against the schema and gives
the first violation with its place; `Document.forest` turns a document into descriptors.

* `renderScalar`: the raw value of a property, the JSON text of anything that is no text.
* `Violation.element?`: the part of the document that an error message shows.
-/

namespace LayoutTree

open LayoutTree.Text

/-- The raw value that a value of a document stands for. Nothing stands for a name alone, and what
is no text for its JSON text. -/
def renderScalar : Data → Option String
  | .null => none
  | .text s => some s
  | v => some (Json.render v)

/-- A control of a layout document. -/
inductive Control
  /-- The type, the group, the properties in order, and the controls below. -/
  | mk (type : String) (group : Option String) (properties : List (String × Data))
      (children : List Control)

/-- A layout document. -/
structure Document where
  /-- The default properties by type. -/
  defaults : List (String × List (String × Data))
  /-- The controls in order. -/
  controls : List Control

namespace Document

/-! ## Violations of the schema -/

/-- What is wrong with a value. -/
inductive Wrong
  | required
  | notText
  | emptyText
  | notObject
  | notList
  | notControl
  | unknownField
  deriving DecidableEq, Repr

/-- The message about a wrong value. -/
def Wrong.message : Wrong → String
  | .required => "Field required"
  | .notText => "Input should be a valid string"
  | .emptyText => "String should have at least 1 character"
  | .notObject => "Input should be a valid dictionary"
  | .notList => "Input should be a valid list"
  | .notControl => "Input should be a valid dictionary or instance of ControlModel"
  | .unknownField => "Extra inputs are not permitted"

/-- A violation of the schema: what is wrong, and where. -/
structure Violation where
  /-- The steps from the document to the value. -/
  path : List Step
  /-- What is wrong with the value. -/
  wrong : Wrong
  deriving DecidableEq, Repr

/-- A violation one step further out. -/
def Violation.within (step : Step) (v : Violation) : Violation :=
  ⟨step :: v.path, v.wrong⟩

/-- A violation of the value itself. -/
def here {α : Type} (wrong : Wrong) : Except Violation α :=
  .error ⟨[], wrong⟩

/-- A result one step further out. -/
def within {α : Type} (step : Step) (r : Except Violation α) : Except Violation α :=
  r.mapError (Violation.within step)

/-- The part of a document that the message about a violation shows: the last value on its path,
where that is a container other than the document itself. -/
def Violation.element? (v : Violation) (document : Data) : Option Data :=
  match v.path with
  | [] => none
  | step :: rest =>
    match Data.follow? document step with
    | none => none
    | some inner =>
      let e := Data.deepest inner rest
      if e.isContainer then some e else none

/-- The message about a violation, with its place. -/
def Violation.message (v : Violation) : String :=
  if v.path.isEmpty then v.wrong.message
  else joinWith "." (v.path.map Step.text) ++ ": " ++ v.wrong.message

/-! ## Checking values -/

/-- A value of a field, where an empty text stands for a missing value. -/
def present? (fields : List (String × Data)) (name : String) : Option Data :=
  match Data.field? fields name with
  | some (.text "") => none
  | v => v

/-- Refuses fields whose names are not known. -/
def checkNames (known : List String) : List (String × Data) → Except Violation Unit
  | [] => .ok ()
  | (name, _) :: rest =>
    if known.contains name then checkNames known rest
    else .error ⟨[.field name], .unknownField⟩

/-- The type of a control. -/
def readType (fields : List (String × Data)) : Except Violation String :=
  within (.field "type") <|
    match Data.field? fields "type" with
    | none => here .required
    | some (.text s) => if s.isEmpty then here .emptyText else .ok s
    | some _ => here .notText

/-- The group of a control. -/
def readGroup (fields : List (String × Data)) : Except Violation (Option String) :=
  within (.field "group") <|
    match present? fields "group" with
    | none => .ok none
    | some .null => .ok none
    | some (.text s) => .ok (some s)
    | some _ => here .notText

/-- A value that has to be an object. -/
def readObject : Data → Except Violation (List (String × Data))
  | .object fields => .ok fields
  | _ => here .notObject

/-- The properties of a control. -/
def readProperties (fields : List (String × Data)) : Except Violation (List (String × Data)) :=
  within (.field "properties") <|
    match present? fields "properties" with
    | none => .ok []
    | some v => readObject v

mutual

/-- A value that has to be a control. -/
def readControl : Data → Except Violation Control
  | .object fields => do
    let type ← readType fields
    let group ← readGroup fields
    let properties ← readProperties fields
    let children ← readChildren fields
    checkNames ["type", "group", "properties", "children"] fields
    .ok (.mk type group properties children)
  | _ => here .notControl

/-- The controls at the first field of the name `children`. -/
def readChildren : List (String × Data) → Except Violation (List Control)
  | [] => .ok []
  | (name, v) :: rest =>
    if name = "children" then within (.field "children") (readControls v) else readChildren rest

/-- A value that has to be a list of controls. An empty text stands for an empty list. -/
def readControls : Data → Except Violation (List Control)
  | .list items => readItems 0 items
  | .text s => if s.isEmpty then .ok [] else here .notList
  | _ => here .notList

/-- The items of a list of controls, counted from `index`. -/
def readItems (index : Nat) : List Data → Except Violation (List Control)
  | [] => .ok []
  | v :: rest => do
    let control ← within (.item index) (readControl v)
    let more ← readItems (index + 1) rest
    .ok (control :: more)

end

/-- The default properties of each type. -/
def readDefaults : List (String × Data) → Except Violation (List (String × List (String × Data)))
  | [] => .ok []
  | (name, v) :: rest => do
    let properties ← within (.field name) (readObject v)
    let more ← readDefaults rest
    .ok ((name, properties) :: more)

/-- A value read as a layout document. -/
def read (fields : List (String × Data)) : Except Violation Document := do
  let defaults ← within (.field "defaults") <|
    match present? fields "defaults" with
    | none => .ok []
    | some v => readObject v >>= readDefaults
  let controls ← within (.field "controls") <|
    match Data.field? fields "controls" with
    | none => .ok []
    | some v => readControls v
  checkNames ["defaults", "controls"] fields
  .ok ⟨defaults, controls⟩

/-! ## Descriptors -/

/-- The defaults that a document declares. -/
def table (document : Document) : Defaults :=
  document.defaults.foldl
    (fun t (type, properties) =>
      properties.foldl (fun t (name, v) => t.add type name (renderScalar v)) (t.declare type))
    .empty

/-- A descriptor with properties set in order. -/
def setAll (d : Descriptor) (properties : List (String × Data)) : Descriptor :=
  properties.foldl (fun d (name, v) => d.set name (renderScalar v)) d

mutual

/-- The descriptor of a control. -/
def descriptor (defaults : Defaults) : Control → Descriptor
  | .mk type group properties children =>
    let d := setAll (defaults.seed type (Context.nonEmpty? group)) properties
    { d with children := descriptors defaults children }

/-- The descriptors of several controls. -/
def descriptors (defaults : Defaults) : List Control → List Descriptor
  | [] => []
  | c :: cs => descriptor defaults c :: descriptors defaults cs

end

/-- The forest that a document describes. -/
def forest (document : Document) : List Descriptor :=
  descriptors document.table document.controls

/-- The forest of a document in structured data from a file. -/
def ofData (file : FilePath) (document : Data) : Except ParseFailure (List Descriptor) :=
  let context := Context.ofFile file.text
  match document with
  | .object fields =>
    match read fields with
    | .ok d => .ok d.forest
    | .error v =>
      let excerpt := match v.element? document with
        | some e => .element (.data e)
        | none => .none
      .error (.source ⟨.invalidDocument (some v.message), { context with excerpt }⟩)
  | _ => .error (.source ⟨.invalidDocument none, context⟩)

end Document

end LayoutTree
