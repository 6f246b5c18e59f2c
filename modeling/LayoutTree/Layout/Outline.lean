import LayoutTree.Layout.Descriptor

/-!
# Nesting by indentation

A forest built line by line. `Outline.attach` places a node below the nearest earlier node that is
indented less, and at the top where there is none. Nodes that can still take children stay open,
innermost first; `Outline.forest` closes them all.
-/

namespace LayoutTree.Layout

/-- A node that can still take children. -/
structure OpenNode where
  /-- How far its line is indented. -/
  indentation : Nat
  /-- The node with the children that are complete. -/
  node : Descriptor

/-- A forest under construction. -/
structure Outline where
  /-- The roots that are complete, in order. -/
  roots : List Descriptor
  /-- The open nodes, innermost first; each is the last child of the next. -/
  stack : List OpenNode

namespace Outline

/-- Nothing placed yet. -/
def empty : Outline := ⟨[], []⟩

/-- A node with one more child, if there is one. -/
def adopt (d : Descriptor) (child : Option Descriptor) : Descriptor :=
  { d with children := d.children ++ child.toList }

/-- The open nodes that are indented at least as far as `indentation` closed. The node closed last
becomes the last child of the next open one, or the last root. -/
def closeFrom (indentation : Nat) (roots : List Descriptor) (closed : Option Descriptor) :
    List OpenNode → Outline
  | [] => ⟨roots ++ closed.toList, []⟩
  | top :: rest =>
    if top.indentation < indentation then ⟨roots, { top with node := adopt top.node closed } :: rest⟩
    else closeFrom indentation roots (some (adopt top.node closed)) rest

/-- A node placed by the indentation of its line. -/
def attach (o : Outline) (indentation : Nat) (d : Descriptor) : Outline :=
  let closed := closeFrom indentation o.roots none o.stack
  { closed with stack := ⟨indentation, d⟩ :: closed.stack }

/-- The forest with all nodes closed. No line is indented less than the first column. -/
def forest (o : Outline) : List Descriptor :=
  (closeFrom 0 o.roots none o.stack).roots

theorem adopt_none (d : Descriptor) : adopt d none = d := by
  obtain ⟨typeName, properties, group, children, source⟩ := d
  simp [adopt]

/-- Closing from the first column on leaves no node open. -/
theorem stack_closeFrom_zero (roots : List Descriptor) (closed : Option Descriptor)
    (stack : List OpenNode) : (closeFrom 0 roots closed stack).stack = [] := by
  induction stack generalizing closed with
  | nil => rfl
  | cons top rest ih => simpa [closeFrom] using ih _

end Outline

end LayoutTree.Layout
