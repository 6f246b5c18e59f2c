import LayoutTree.Node.Node

/-!
# Bindings

A property named `Binding:` and a target does not hold a value but the path of one. Bindings are
handed to an applier; `storeBinding` keeps them on the node.
-/

namespace LayoutTree

open LayoutTree.Text

/-- The mark in front of the target of a binding. -/
def bindingMark : List Char := "binding:".toList

/-- The target of a binding, if a property name names one. -/
def bindingTarget? (name : String) : Option String :=
  let s := name.toList
  if bindingMark.isPrefixOf (fold s) then
    let target := trim (s.drop bindingMark.length)
    if target.isEmpty then none else some (String.ofList target)
  else none

/-- A node with a binding kept on it, or the reason why it cannot hold bindings. -/
def storeBinding (n : Node) (target path : String) : Except String Node :=
  if n.cls.isNode then .ok { n with bindings := putNamed target path n.bindings }
  else .error (n.cls.name ++ " does not support bindings")

end LayoutTree
