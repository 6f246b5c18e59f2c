import LayoutTree.Data

/-!
# Places in structured data

A place is reached from the whole value by steps through fields and items. `Data.deepest` is the
last value on a path that exists.
-/

namespace LayoutTree

/-- How a value is reached from the one around it. -/
inductive Step
  /-- A field of an object. -/
  | field (name : String)
  /-- An item of a list. -/
  | item (index : Nat)
  deriving DecidableEq, Repr

/-- The written form of a step. -/
def Step.text : Step → String
  | .field name => name
  | .item index => toString index

namespace Data

/-- The value that a step leads to. -/
def follow? : Data → Step → Option Data
  | .object fields, .field name => field? fields name
  | .list items, .item index => items[index]?
  | _, _ => none

/-- The last value on a path that exists. -/
def deepest (v : Data) : List Step → Data
  | [] => v
  | step :: rest =>
    match follow? v step with
    | some inner => deepest inner rest
    | none => v

end Data

end LayoutTree
