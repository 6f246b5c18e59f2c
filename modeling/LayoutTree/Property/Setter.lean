import LayoutTree.Conversion.Engine
import LayoutTree.Diagnostic.Log
import LayoutTree.Node.Node
import LayoutTree.Node.Widget

/-!
# Setters

A setter claims properties of nodes and assigns raw values to them. Setters are asked in order, and
the first one that claims a property assigns it. The setters of the library serve style classes,
properties attached for a container, grid tracks, tool tips, image sources, and last every declared
property.

* `Setter.assignDeclared`: a declared property takes the converted value, or the raw text where its
  type accepts texts.
-/

namespace LayoutTree

open LayoutTree.Text

/-- Why a value could not be assigned. -/
inductive AssignmentFailure
  /-- The raw value has no conversion. -/
  | conversion (f : ConversionFault)
  /-- A setter from elsewhere fails with a message. -/
  | foreign (message : String)

/-- The message about a failed assignment. -/
def AssignmentFailure.message : AssignmentFailure → String
  | .conversion f => f.message
  | .foreign message => message

/-- What an assignment does. -/
structure Assignment where
  /-- The node afterwards. -/
  node : Node
  /-- Why the value could not be assigned, if so. -/
  failure : Option AssignmentFailure
  /-- Whether it asks for the build to be cancelled. -/
  cancels : Bool
  log : Log

namespace Assignment

/-- An assignment that gives a node. -/
def done (node : Node) : Assignment := ⟨node, none, false, []⟩

/-- An assignment that leaves the node as it is and fails. -/
def failed (node : Node) (failure : AssignmentFailure) : Assignment := ⟨node, some failure, false, []⟩

/-- An assignment of a converted value. -/
def ofConversion (n : Node) (r : Except ConversionFault Value) (assign : Value → Node) : Assignment :=
  match r with
  | .ok v => done (assign v)
  | .error f => failed n (.conversion f)

end Assignment

/-- A way to assign some properties. -/
structure Setter where
  /-- What tells the setter apart from others. -/
  key : String
  /-- The name of its kind. -/
  name : String
  /-- Whether it serves a property of a node. -/
  claims : Node → String → Bool
  /-- Assigns a raw value to a property. -/
  apply : Chain Converter → Node → String → String → Assignment
  /-- Assigns a raw value in an asynchronous build, where that differs. -/
  applyLater : Option (Chain Converter → Node → String → String → Assignment)

instance : Keyed Setter := ⟨Setter.key⟩

namespace Setter

/-- The written form of a setter. -/
def text (s : Setter) : String := s.name ++ "()"

/-- A setter of the library. -/
def builtIn (name : String) (claims : Node → String → Bool)
    (apply : Chain Converter → Node → String → String → Assignment) : Setter :=
  ⟨name, name, claims, apply, none⟩

/-! ## Style classes -/

/-- The keys of the properties with style classes. -/
def classesKeys : List String := ["classes", "class"]

/-- Style classes with those of a comma separated list added that are new. -/
def addClasses (classes : List String) (value : String) : List String :=
  (splitAt ',' value.toList).foldl
    (fun classes part =>
      let part := String.ofList (trim part)
      if part.isEmpty || classes.contains part then classes else classes ++ [part])
    classes

/-- The setter of style classes. -/
def styleClasses : Setter :=
  builtIn "ClassesSetter" (fun n name => classesKeys.contains (propertyKey name) && n.cls.isNode)
    fun _ n _ value => .done { n with classes := addClasses n.classes value }

/-! ## Attached properties -/

/-- The attached properties by key: the qualified name and the type of the value. -/
def attachedProperties : List (String × String × Target) := [
  ("x", "Canvas.Left", .number), ("y", "Canvas.Top", .number),
  ("canvas.left", "Canvas.Left", .number), ("canvas.top", "Canvas.Top", .number),
  ("canvas.right", "Canvas.Right", .number), ("canvas.bottom", "Canvas.Bottom", .number),
  ("zindex", "ZIndex", .integer), ("row", "Grid.Row", .integer),
  ("column", "Grid.Column", .integer), ("rowspan", "Grid.RowSpan", .integer),
  ("columnspan", "Grid.ColumnSpan", .integer), ("grid.row", "Grid.Row", .integer),
  ("grid.column", "Grid.Column", .integer), ("grid.rowspan", "Grid.RowSpan", .integer),
  ("grid.columnspan", "Grid.ColumnSpan", .integer),
  ("dock", "DockPanel.Dock", .enumeration .dock),
  ("dockpanel.dock", "DockPanel.Dock", .enumeration .dock)]

/-- A node with a value attached under a qualified name. -/
def attach (n : Node) (name : String) (v : Value) : Node :=
  { n with attached := putNamed name v n.attached }

/-- The setter of attached properties. -/
def attachedProperty : Setter :=
  builtIn "AttachedPropertySetter"
    (fun n name => (attachedProperties.lookup (propertyKey name)).isSome && n.cls.isNode)
    fun converters n name value =>
      match attachedProperties.lookup (propertyKey name) with
      | some (qualified, type) =>
        .ofConversion n (Conversion.convert converters (some value) type) (attach n qualified)
      | none => .done n

/-! ## Grid tracks -/

/-- Which tracks of a grid a property defines. -/
inductive Tracks
  | columns
  | rows
  deriving DecidableEq, Repr

/-- The tracks that a property defines. -/
def tracks? (name : String) : Option Tracks :=
  [("columndefinitions", Tracks.columns), ("rowdefinitions", .rows)].lookup (propertyKey name)

/-- A node with track sizes. -/
def withTracks (n : Node) (sizes : List Value) : Tracks → Node
  | .columns => { n with columns := sizes }
  | .rows => { n with rows := sizes }

/-- The sizes of a comma separated list. -/
def trackSizes (converters : Chain Converter) (value : String) : Except ConversionFault (List Value) :=
  (((splitAt ',' value.toList).map trim).filter fun part => !part.isEmpty).mapM fun part =>
    Conversion.convert converters (some (String.ofList part)) (.record .gridLength)

/-- The setter of grid tracks. -/
def gridTracks : Setter :=
  builtIn "GridDefinitionSetter" (fun n name => (tracks? name).isSome && n.cls.hasTracks)
    fun converters n name value =>
      match tracks? name, trackSizes converters value with
      | some tracks, .ok sizes => .done (withTracks n sizes tracks)
      | _, .error f => .failed n (.conversion f)
      | none, _ => .done n

/-! ## Tool tips and images -/

/-- The qualified name of tool tips. -/
def toolTipProperty : String := "ToolTip.Tip"

/-- The setter of tool tips. -/
def toolTip : Setter :=
  builtIn "ToolTipSetter" (fun n name => propertyKey name = "tooltip" && n.cls.isNode)
    fun _ n _ value => .done (attach n toolTipProperty (.text value))

/-- The keys of the properties that name the source of an image. -/
def imageKeys : List String := ["source", "image", "imagen"]

/-- Whether nodes of a class show images. -/
def isImage (c : NodeClass) : Bool :=
  hasInfix "image".toList (fold c.name.toList)

/-- The setter of image sources. -/
def imageSource : Setter :=
  builtIn "ImageSourceSetter"
    (fun n name =>
      imageKeys.contains (propertyKey name) && (n.cls.accessor? "source").isSome && isImage n.cls)
    fun _ n _ value =>
      match n.cls.accessor? "source" with
      | some a => .done (n.assign a.slot (.text (trimmed value)))
      | none => .done n

/-! ## Declared properties -/

/-- A raw value assigned to a declared property. -/
def assignDeclared (converters : Chain Converter) (n : Node) (a : Accessor) (value : String) :
    Assignment :=
  if a.target = .text ∨ a.target = .object ∨ a.target = .any then .done (n.assign a.slot (.text value))
  else
    match Conversion.convert converters (some value) a.type with
    | .ok v => .done (n.assign a.slot v)
    | .error (.failure e) =>
      if a.acceptsText then
        { Assignment.done (n.assign a.slot (.text value)) with
          log := [⟨.debug, "dynui.setters", "Assigning raw text to " ++ n.cls.name ++ "." ++ a.name⟩] }
      else .failed n (.conversion (.failure e))
    | .error f => .failed n (.conversion f)

/-- The setter of declared properties. -/
def declared : Setter :=
  builtIn "AccessorPropertySetter" (fun n name => (n.cls.accessor? name).isSome)
    fun converters n name value =>
      match n.cls.accessor? name with
      | some a => assignDeclared converters n a value
      | none => .done n

/-- The setters of the library in the order in which they are asked. -/
def standard : Chain Setter :=
  ⟨[styleClasses, attachedProperty, gridTracks, toolTip, imageSource, declared]⟩

/-- The first setter that claims a property of a node. -/
def find? (setters : Chain Setter) (n : Node) (name : String) : Option Setter :=
  setters.find? fun s => s.claims n name

end Setter

end LayoutTree
