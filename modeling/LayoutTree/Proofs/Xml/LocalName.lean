import LayoutTree.Proofs.Xml.Route

/-!
# Names without namespaces

The tree in which each element and attribute has its local name only (`Element.bare`). In the
written form of a name the namespace ends in a closing brace, which no local name of a document
holds: a tree that is read is `Element.IsNamed`.
-/

namespace LayoutTree.Xml

/-- A name without its namespace. -/
def Name.bare (n : Name) : Name := ⟨none, n.localName⟩

/-- An attribute without the namespace of its name. -/
def Attribute.bare (a : Attribute) : Attribute := ⟨a.name.bare, a.value⟩

namespace Element

mutual

/-- An element without the namespaces of all names in it. -/
def bare : Element → Element
  | mk name attributes text children =>
    mk name.bare (attributes.map Attribute.bare) text (bareAll children)

/-- Elements without the namespaces of all names in them. -/
def bareAll : List Element → List Element
  | [] => []
  | e :: rest => bare e :: bareAll rest

end

theorem bareAll_eq_map (es : List Element) : bareAll es = es.map bare := by
  induction es with
  | nil => rfl
  | cons e rest ih => rw [bareAll, ih, List.map_cons]

@[simp] theorem name_bare (e : Element) : e.bare.name = e.name.bare := by
  cases e
  rfl

@[simp] theorem attributes_bare (e : Element) :
    e.bare.attributes = e.attributes.map Attribute.bare := by
  cases e
  rfl

@[simp] theorem text_bare (e : Element) : e.bare.text = e.text := by
  cases e
  rfl

@[simp] theorem children_bare (e : Element) : e.bare.children = e.children.map bare := by
  cases e
  exact bareAll_eq_map _

/-- The local names of an element and of its attributes have no closing brace. -/
def HasLocalNames (e : Element) : Prop :=
  '\x7d' ∉ e.name.localName.toList ∧ ∀ a ∈ e.attributes, '\x7d' ∉ a.name.localName.toList

/-- The local names in a tree have no closing brace. -/
abbrev IsNamed (root : Element) : Prop :=
  root.Everywhere HasLocalNames

/-- No element of a tree has two attributes with the same local name. -/
abbrev HasDistinctAttributes (root : Element) : Prop :=
  root.Everywhere fun e => (e.attributes.map fun a => a.name.localName).Nodup

end Element

/-- The written form of a name holds a closing brace if the name has a namespace, and only then. -/
theorem Name.brace_mem_text_iff {n : Name} (h : '\x7d' ∉ n.localName.toList) :
    '\x7d' ∈ n.text.toList ↔ n.space ≠ none := by
  obtain ⟨space, localName⟩ := n
  cases space with
  | none => simpa [Name.text] using h
  | some uri => simp [Name.text]

end LayoutTree.Xml
