import LayoutTree.Value.Measure

/-!
# Enumerations

An enumeration is a name with named members in order. A second name of an earlier member is no
member of its own and is not listed.
-/

namespace LayoutTree

/-- The value behind a member of an enumeration. -/
inductive MemberValue
  | integer (n : Int)
  | text (s : String)
  deriving DecidableEq, Repr

/-- A type with finitely many named members. -/
structure Enumeration where
  /-- The name of the type. -/
  name : String
  /-- The members in order, each with the value behind it. -/
  members : List (String × MemberValue)
  deriving DecidableEq, Repr

namespace Enumeration

/-- An enumeration whose members stand for texts. -/
def ofTexts (name : String) (members : List (String × String)) : Enumeration :=
  ⟨name, members.map fun (member, s) => (member, .text s)⟩

/-- The names of the members. -/
def names (e : Enumeration) : List String :=
  e.members.map (·.1)

/-- The member that stands for an integer. -/
def ofInteger? (e : Enumeration) (n : Int) : Option String :=
  (e.members.find? fun m => m.2 = .integer n).map (·.1)

/-- The member that stands for a text. -/
def ofText? (e : Enumeration) (s : String) : Option String :=
  (e.members.find? fun m => m.2 = .text s).map (·.1)

/-- The weights of fonts. -/
def fontWeight : Enumeration :=
  ⟨"FontWeight",
    [("THIN", 100), ("EXTRA_LIGHT", 200), ("LIGHT", 300), ("SEMI_LIGHT", 350), ("NORMAL", 400),
      ("MEDIUM", 500), ("SEMI_BOLD", 600), ("BOLD", 700), ("EXTRA_BOLD", 800), ("BLACK", 900),
      ("EXTRA_BLACK", 950)].map fun (name, n) => (name, .integer n)⟩

/-- The units of track sizes. -/
def gridUnit : Enumeration :=
  .ofTexts "GridUnitType" (GridUnit.all.map fun u => (u.name, u.text))

end Enumeration

end LayoutTree
