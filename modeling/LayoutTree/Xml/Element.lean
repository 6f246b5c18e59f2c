/-!
# XML elements

The tree that an XML document describes: names with their namespaces, attributes in order, the text
before the first child, and children.
-/

namespace LayoutTree.Xml

/-- The name of an element or attribute. -/
structure Name where
  /-- The namespace, perhaps none. -/
  space : Option String
  /-- The name within its namespace. -/
  localName : String
  deriving DecidableEq, Repr

/-- The written form of a name: the namespace between braces in front. -/
def Name.text (n : Name) : String :=
  match n.space with
  | none => n.localName
  | some uri => "\x7b" ++ uri ++ "\x7d" ++ n.localName

/-- An attribute of an element. -/
structure Attribute where
  name : Name
  value : String
  deriving DecidableEq, Repr

/-- An element with what it holds. -/
inductive Element
  /-- The name, the attributes in order, the text before the first child, and the children. -/
  | mk (name : Name) (attributes : List Attribute) (text : String) (children : List Element)

namespace Element

/-- The name of an element. -/
def name : Element → Name
  | mk name _ _ _ => name

/-- The attributes of an element in order. -/
def attributes : Element → List Attribute
  | mk _ attributes _ _ => attributes

/-- The text of an element before its first child. -/
def text : Element → String
  | mk _ _ text _ => text

/-- The children of an element in order. -/
def children : Element → List Element
  | mk _ _ _ children => children

/-- Children are smaller than the element that holds them. -/
theorem sizeOf_lt_of_mem_children {e c : Element} (h : c ∈ e.children) : sizeOf c < sizeOf e := by
  obtain ⟨name, attributes, text, children⟩ := e
  have := List.sizeOf_lt_of_mem (show c ∈ children from h)
  simp only [mk.sizeOf_spec]
  omega

end Element

end LayoutTree.Xml
