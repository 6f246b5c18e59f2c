import LayoutTree.Plugin.Manager
import LayoutTree.Text.Alphanumeric

/-!
# References to plugins

A plugin is named by a module and, after a colon, a path of names inside it. A reference can also
end in extras between brackets, which do not count (`Reference.read?`).
-/

namespace LayoutTree.Command

open LayoutTree.Text

/-- Plugins, and things that are none, by the module and the name that they are found under. -/
abbrev Offers := List (String × String × EntryContent)

/-- A reference to something in a module. -/
structure Reference where
  moduleName : String
  /-- The names that lead to it inside the module. -/
  path : List String
  deriving DecidableEq, Repr

/-- Why a reference leads nowhere. -/
inductive ReferenceFault
  /-- It is no reference. -/
  | malformed
  /-- Its module cannot be used. -/
  | module (fault : ModuleFault)
  /-- There is nothing of a name in its module. -/
  | absent (whole name : String)
  deriving DecidableEq, Repr

/-- The message about a reference. -/
def ReferenceFault.message : ReferenceFault → String
  | malformed => "'NoneType' object has no attribute 'group'"
  | module fault => fault.message
  | absent whole name => "module " ++ quoted whole ++ " has no attribute " ++ quoted name

namespace Reference

/-- A character of a dotted name. -/
def isNameChar (c : Char) : Bool := c = '.' || c = '_' || isAlphanumeric c

/-- Whether a text is empty or extras between brackets. -/
def isEnd (s : List Char) : Bool :=
  let s := trimEnd s
  s.isEmpty || (s.head? = some '[' && s.getLast? = some ']' && 1 < s.length && !s.contains '\n')

/-- The reference that a text holds. -/
def read? (text : String) : Option Reference :=
  let s := text.toList
  let name := s.takeWhile isNameChar
  let rest := trimStart (s.dropWhile isNameChar)
  if name.isEmpty then none
  else
    match rest with
    | ':' :: rest =>
      let rest := trimStart rest
      let path := rest.takeWhile isNameChar
      if !path.isEmpty && isEnd (trimStart (rest.dropWhile isNameChar)) then
        some ⟨String.ofList name,
          ((splitAt '.' path).filter fun part => !part.isEmpty).map (String.ofList ·)⟩
      else none
    | _ => if isEnd rest then some ⟨String.ofList name, []⟩ else none

/-- What the names of a path lead to inside a module. -/
def follow (index : ModuleIndex) (offers : Offers) (m : TypeModule) :
    List String → Except ReferenceFault EntryContent
  | [] => .ok .object
  | name :: rest =>
    match offers.find? fun o => o.1 = m.name ∧ o.2.1 = name with
    | some o => if rest.isEmpty then .ok o.2.2 else .error (.absent m.name name)
    | none =>
      if m.classes.any fun c => c.name = name then .ok .object
      else
        match index.lookup? (m.name ++ "." ++ name) with
        | some part => follow index offers part rest
        | none => .error (.absent m.name name)

/-- What a reference leads to. -/
def resolve (index : ModuleIndex) (offers : Offers) (text : String) :
    Except ReferenceFault EntryContent :=
  match read? text with
  | none => .error .malformed
  | some r =>
    match index.find r.moduleName with
    | .error fault => .error (.module fault)
    | .ok m => follow index offers m r.path

end Reference

end LayoutTree.Command
