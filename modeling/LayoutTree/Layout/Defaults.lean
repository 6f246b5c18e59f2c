import LayoutTree.Layout.Descriptor

/-!
# Default properties

The properties that a source declares for all nodes of a type. Type and property names are compared
in folded case; a later default of the same property takes its place and keeps its position.
-/

namespace LayoutTree

open LayoutTree.Text

/-- Default properties by type, in order of declaration. -/
structure Defaults where
  /-- The folded name of each type with its defaults. -/
  blocks : List (String × List Property)
  deriving Repr

/-- The properties with one put in: in the place of an earlier one with its key, or at the end. -/
def putProperty (entry : Property) : List Property → List Property
  | [] => [entry]
  | p :: ps => if p.key = entry.key then entry :: ps else p :: putProperty entry ps

namespace Defaults

/-- No defaults. -/
def empty : Defaults := ⟨[]⟩

/-- Whether defaults of a type have been declared, perhaps none. -/
def contains (t : Defaults) (typeName : String) : Bool :=
  (t.blocks.lookup (folded typeName)).isSome

/-- The defaults of a type, in order of declaration. -/
def entries (t : Defaults) (typeName : String) : List Property :=
  (t.blocks.lookup (folded typeName)).getD []

/-- The blocks with one changed; a block that is missing is opened at the end. -/
def changeBlock (key : String) (change : List Property → List Property) :
    List (String × List Property) → List (String × List Property)
  | [] => [(key, change [])]
  | (k, ps) :: rest => if k = key then (k, change ps) :: rest else (k, ps) :: changeBlock key change rest

/-- A type declared, perhaps without defaults. -/
def declare (t : Defaults) (typeName : String) : Defaults :=
  ⟨changeBlock (folded typeName) id t.blocks⟩

/-- A default declared for a type. -/
def add (t : Defaults) (typeName name : String) (value : Option String) : Defaults :=
  ⟨changeBlock (folded typeName) (putProperty ⟨name, value⟩) t.blocks⟩

/-- A node that starts with the defaults of its type. -/
def seed (t : Defaults) (typeName : String) (group : Option String) : Descriptor :=
  { Descriptor.ofType typeName with properties := t.entries typeName, group }

/-- A node completed with the defaults of its type. -/
def apply (t : Defaults) (d : Descriptor) : Descriptor :=
  d.mergeDefaults (t.entries d.typeName)

theorem lookup_changeBlock_self (key : String) (change : List Property → List Property)
    (blocks : List (String × List Property)) :
    (changeBlock key change blocks).lookup key = some (change ((blocks.lookup key).getD [])) := by
  induction blocks with
  | nil => simp [changeBlock]
  | cons b blocks ih =>
    obtain ⟨k, ps⟩ := b
    by_cases h : k = key
    · subst h
      simp [changeBlock]
    · have hne : (key == k) = false := by simpa using fun e => h e.symm
      simp [changeBlock, h, List.lookup_cons, hne, ih]

theorem entries_add_self (t : Defaults) (typeName name : String) (value : Option String) :
    (t.add typeName name value).entries typeName =
      putProperty ⟨name, value⟩ (t.entries typeName) := by
  simp [add, entries, lookup_changeBlock_self]

end Defaults

end LayoutTree
