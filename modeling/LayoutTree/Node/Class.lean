import LayoutTree.Conversion.Target
import LayoutTree.Text.Case

/-!
# Node classes

A class names the slots of its nodes with their types, and says how its nodes take children.
Layouts address slots by property names, which are matched by `propertyKey`: case and underscores
do not count, so that `FontSize`, `fontsize` and `font_size` are one property. `NodeClass.accessors`
is the table of the properties of a class by key.
-/

namespace LayoutTree

open LayoutTree.Text

/-! ## Property names -/

/-- What property names are matched by. -/
def propertyKey (name : String) : String :=
  onChars (fun s => fold (without '_' s)) name

/-- A word with its first letter in upper case. -/
def withInitial : List Char → List Char
  | [] => []
  | c :: s => upper [c] ++ s

/-- The name of the property behind a slot: its words joined, each with an upper case initial. -/
def layoutName (slot : String) : String :=
  onChars (fun s => (splitAt '_' s).flatMap withInitial) slot

/-! ## Classes -/

/-- A slot as a class declares it. -/
structure Declaration where
  /-- The name of the slot. -/
  slot : String
  /-- The type of its values. -/
  type : Target
  /-- Whether the slot belongs to the class as a whole and not to its nodes. -/
  shared : Bool

/-- How the nodes of a class take children. -/
inductive Capability
  /-- They take none. -/
  | leaf
  /-- They hold children in order. -/
  | panel
  /-- They hold one child in the place of their content. -/
  | content
  /-- They hold items in order. -/
  | items
  /-- They take children without keeping them, and count them in a slot. -/
  | sink (counter : String)
  deriving DecidableEq, Repr

/-- A class of nodes. -/
structure NodeClass where
  /-- The name of the class. -/
  name : String
  /-- How its nodes take children. -/
  capability : Capability
  /-- The slots that it declares, those of more general classes first. -/
  declarations : List Declaration
  /-- Whether its objects are nodes, with style classes, attached properties and bindings. -/
  isNode : Bool
  /-- Whether its nodes have lists of grid tracks. -/
  hasTracks : Bool
  /-- Why its objects cannot be given a data context, if so. -/
  contextRefusal : Option String
  /-- Why no object of it can be made, if so. -/
  constructionFailure : Option String

/-- The access to a slot under a property name. -/
structure Accessor where
  /-- The name of the property. -/
  name : String
  /-- The slot behind it. -/
  slot : String
  /-- The type of its values. -/
  type : Target
  deriving DecidableEq, Repr

namespace Accessor

/-- The access to a declared slot. -/
def ofDeclaration (d : Declaration) : Accessor :=
  ⟨layoutName d.slot, d.slot, d.type⟩

/-- The type without the permission to be absent. -/
def target (a : Accessor) : Target := a.type.unwrapped

/-- Whether a raw text is a value of the property as it is. -/
def acceptsText (a : Accessor) : Bool := a.type.acceptsText

end Accessor

/-- A table with one entry put in: in the place of an earlier one with its key, or at the end. -/
def putAccessor (key : String) (a : Accessor) : List (String × Accessor) → List (String × Accessor)
  | [] => [(key, a)]
  | (k, b) :: rest => if k = key then (k, a) :: rest else (k, b) :: putAccessor key a rest

namespace NodeClass

/-- A class of nodes that take no children. -/
def leaf (name : String) (declarations : List Declaration) : NodeClass :=
  ⟨name, .leaf, declarations, true, false, none, none⟩

/-- Whether a slot is a property of the nodes. -/
def isProperty (d : Declaration) : Bool :=
  !d.shared && d.slot.toList.head? ≠ some '_'

/-- The properties of a class by key, in order of declaration. -/
def accessors (c : NodeClass) : List (String × Accessor) :=
  (c.declarations.filter isProperty).foldl
    (fun table d => putAccessor (propertyKey d.slot) (.ofDeclaration d) table) []

/-- The access to the property of a name. -/
def accessor? (c : NodeClass) (name : String) : Option Accessor :=
  c.accessors.lookup (propertyKey name)

/-- Whether nodes of the class take children in any way. -/
def holdsChildren (c : NodeClass) : Bool :=
  c.capability ≠ .leaf

end NodeClass

end LayoutTree
