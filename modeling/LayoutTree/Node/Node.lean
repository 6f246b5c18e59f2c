import LayoutTree.Node.Class
import LayoutTree.Text.Quoted
import LayoutTree.Value.Value

/-!
# Nodes

A node has an identity, a class, what its layout says about it, and the nodes below it. Nodes are
plain values: an operation gives the node as it is afterwards. The content of a node is either a
value or a child, never both (`assign`, `setContent`).
-/

namespace LayoutTree

open LayoutTree.Text

/-- A node with the nodes below it. -/
structure Node where
  /-- What tells the node apart from others. -/
  id : Nat
  /-- Its class. -/
  cls : NodeClass
  /-- The node that owns it. -/
  parent : Option Nat
  /-- The data that its bindings refer to. -/
  dataContext : Option Value
  /-- Its style classes. -/
  classes : List String
  /-- The properties that containers read from it, by qualified name. -/
  attached : List (String × Value)
  /-- The paths that its properties are bound to. -/
  bindings : List (String × String)
  /-- The slots assigned to it. -/
  slots : List (String × Value)
  /-- The sizes of its grid columns. -/
  columns : List Value
  /-- The sizes of its grid rows. -/
  rows : List Value
  /-- The nodes below it. -/
  children : List Node

/-- An entry put into a list of named values: in the place of an earlier one, or at the end. -/
def putNamed {α : Type} (name : String) (a : α) : List (String × α) → List (String × α)
  | [] => [(name, a)]
  | (k, b) :: rest => if k = name then (k, a) :: rest else (k, b) :: putNamed name a rest

namespace Node

/-- A node of a class that nothing has been said about. -/
def ofClass (id : Nat) (cls : NodeClass) : Node :=
  ⟨id, cls, none, none, [], [], [], [], [], [], []⟩

/-- The slot that holds the content of a node. -/
def contentSlot : String := "content"

/-- A node with a value assigned to a slot. A value as the content replaces a child. -/
def assign (n : Node) (slot : String) (v : Value) : Node :=
  let n := { n with slots := putNamed slot v n.slots }
  if slot = contentSlot ∧ n.cls.capability = .content then { n with children := [] } else n

/-- The value assigned to a slot. -/
def slot? (n : Node) (slot : String) : Option Value :=
  n.slots.lookup slot

/-- A node under an owner. -/
def ownedBy (owner : Nat) (n : Node) : Node := { n with parent := some owner }

/-- A node in the place of an item or content under an owner. Objects that are no nodes have none.
-/
def heldBy (owner : Nat) (n : Node) : Node :=
  if n.cls.isNode then n.ownedBy owner else n

/-- The counter of a node that keeps no children, one further. -/
def countUp (n : Node) (counter : String) : Node :=
  let before := match n.slot? counter with
    | some (.integer k) => k
    | _ => 0
  n.assign counter (.integer (before + 1))

/-- A node with a child as its content. -/
def setContent (n child : Node) : Node :=
  { n with
    slots := n.slots.filter fun a => a.1 ≠ contentSlot
    children := [child.heldBy n.id] }

/-- The text that is the content of a node. -/
def contentText? (n : Node) : Option String :=
  match n.slot? contentSlot with
  | some (.text s) => some s
  | _ => none

/-- The name of a node. -/
def name? (n : Node) : Option String :=
  match n.slot? "name" with
  | some (.text s) => if s.isEmpty then none else some s
  | _ => none

/-- The written form of a node: its class and its name. -/
def text (n : Node) : String :=
  "<" ++ n.cls.name ++ (match n.name? with
    | some s => " " ++ quoted s
    | none => "") ++ ">"

mutual

/-- An identity that neither a node nor any node below it has. -/
def freshId : Node → Nat
  | ⟨id, _, _, _, _, _, _, _, _, _, children⟩ => max (id + 1) (freshIdAmong children)

/-- An identity that no node of a list has, nor any node below one of them. -/
def freshIdAmong : List Node → Nat
  | [] => 0
  | n :: rest => max n.freshId (freshIdAmong rest)

end

end Node

theorem lookup_putNamed_self {α : Type} (name : String) (a : α) (l : List (String × α)) :
    (putNamed name a l).lookup name = some a := by
  induction l with
  | nil => simp [putNamed]
  | cons e l ih =>
    obtain ⟨k, b⟩ := e
    by_cases h : k = name
    · simp [putNamed, h]
    · have hne : (name == k) = false := by simpa using fun e => h e.symm
      simp [putNamed, h, List.lookup_cons, hne, ih]

theorem lookup_putNamed_ne {α : Type} {name other : String} (a : α) (l : List (String × α))
    (h : other ≠ name) : (putNamed name a l).lookup other = l.lookup other := by
  have hf : (other == name) = false := beq_eq_false_iff_ne.2 h
  induction l with
  | nil => simp [putNamed, List.lookup_cons, hf]
  | cons e l ih =>
    obtain ⟨k, b⟩ := e
    by_cases hk : k = name
    · subst hk
      simp [putNamed, List.lookup_cons, hf]
    · simp only [putNamed, hk, if_false, List.lookup_cons, ih]

/-- A slot reads back what was assigned last. -/
theorem Node.slot?_assign_self (n : Node) (slot : String) (v : Value) :
    (n.assign slot v).slot? slot = some v := by
  simp only [Node.assign, Node.slot?]
  split <;> simp [lookup_putNamed_self]

end LayoutTree
