import LayoutTree.Node.Widget
import LayoutTree.Text.Quoted

/-!
# Modules of node classes

Classes come in modules with dotted names. A module is found through the modules that it is part of,
so the first of them that does not exist is the one that is missing (`ModuleIndex.find`).
-/

namespace LayoutTree

open LayoutTree.Text

/-- A module of node classes. -/
structure TypeModule where
  /-- The full name. -/
  name : String
  /-- Whether it has modules as its parts. -/
  hasParts : Bool
  /-- The classes that it defines, in order. -/
  classes : List NodeClass

/-- Why there is no module of a name. -/
inductive MissingModule
  /-- There is no such module. -/
  | absent (name : String)
  /-- It would be part of a module that has no parts. -/
  | partOf (name whole : String)
  deriving DecidableEq, Repr

/-- Why a module cannot be used. -/
inductive ModuleFault
  /-- There is no such module. -/
  | missing (m : MissingModule)
  /-- The name is empty. -/
  | unnamed
  /-- The name is relative to another module. -/
  | relative (name : String)
  deriving DecidableEq, Repr

/-- The message about a missing module. -/
def MissingModule.message : MissingModule → String
  | .absent name => "No module named " ++ quoted name
  | .partOf name whole =>
    "No module named " ++ quoted name ++ "; " ++ quoted whole ++ " is not a package"

/-- The message about a module that cannot be used. -/
def ModuleFault.message : ModuleFault → String
  | .missing m => m.message
  | .unnamed => "Empty module name"
  | .relative name =>
    "the 'package' argument is required to perform a relative import for " ++ quoted name

/-- The modules that there are. -/
abbrev ModuleIndex := List TypeModule

namespace ModuleIndex

/-- The modules of the library. -/
def standard : ModuleIndex := [
  ⟨"dynui", true, []⟩, ⟨"dynui.nodes", false, NodeClass.bases⟩,
  ⟨"dynui.widgets", false, NodeClass.widgets⟩]

/-- The names of the modules that the parts of a name lead through inside a module. -/
def stagesIn (whole : String) : List (List Char) → List String
  | [] => []
  | part :: rest =>
    let name := whole ++ "." ++ String.ofList part
    name :: stagesIn name rest

/-- The names of the modules that a name leads through, the outermost first. -/
def stages (name : String) : List String :=
  match splitAt '.' name.toList with
  | [] => []
  | part :: rest => String.ofList part :: stagesIn (String.ofList part) rest

/-- The module of that name, if it is among those that there are. -/
def lookup? (index : ModuleIndex) (name : String) : Option TypeModule :=
  index.find? fun m => m.name = name

/-- Goes through modules to the last one of a list of names. -/
def descend (index : ModuleIndex) (whole : Option TypeModule) :
    List String → Except ModuleFault TypeModule
  | [] =>
    match whole with
    | some m => .ok m
    | none => .error .unnamed
  | name :: rest =>
    match whole, index.lookup? name with
    | none, none => .error (.missing (.absent name))
    | none, some m => descend index (some m) rest
    | some w, found =>
      if w.hasParts then
        match found with
        | some m => descend index (some m) rest
        | none => .error (.missing (.absent name))
      else .error (.missing (.partOf name w.name))

/-- The module of a name. -/
def find (index : ModuleIndex) (name : String) : Except ModuleFault TypeModule :=
  if name.isEmpty then .error .unnamed
  else if name.toList.head? = some '.' then .error (.relative name)
  else descend index none (stages name)

end ModuleIndex

end LayoutTree
