import LayoutTree.Data
import LayoutTree.Yaml.Node

/-!
# Reading YAML

Structured data from a YAML text. Every scalar stays a text, whatever it looks like. Keys are texts;
a key that stands twice keeps its place and takes the later value.
-/

namespace LayoutTree.Yaml

mutual

/-- The value of a node. -/
def Node.value : Node → Except Failure Data
  | .scalar text _ => .ok (.text text)
  | .sequence items _ => do .ok (.list (← Node.values items))
  | .mapping entries _ => do .ok (.object (← Node.fields [] entries))
  | .cycle m => .error (.problem .recursiveNode m)

/-- The values of several nodes. -/
def Node.values : List Node → Except Failure (List Data)
  | [] => .ok []
  | n :: rest => do
    let v ← Node.value n
    .ok (v :: (← Node.values rest))

/-- The fields of a mapping, put to those that are known already. -/
def Node.fields (known : List (String × Data)) :
    List (Node × Node) → Except Failure (List (String × Data))
  | [] => .ok known
  | (key, n) :: rest => do
    match ← Node.value key with
    | .text name =>
      let v ← Node.value n
      Node.fields (Data.putField known name v) rest
    | _ => .error (.problem .unhashableKey key.mark)

end

/-- The value of the only document of a text, if there is one. -/
def readChars (s : List Char) : Except Failure (Option Data) := do
  match ← Node.read s with
  | none => .ok none
  | some n => .ok (some (← n.value))

end LayoutTree.Yaml
