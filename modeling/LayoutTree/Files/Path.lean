import LayoutTree.Text.Search

/-!
# File paths

A path is a root, perhaps none, and the names below it. `FilePath.ofString` drops empty and `.`
parts and keeps `..`, which only a file store can follow. The main statements are `join_relative`
and
`join_absolute`: a relative path goes below another path, an absolute one replaces it.
-/

namespace LayoutTree

open LayoutTree.Text

/-- What a path starts from. -/
inductive PathRoot
  /-- The working directory. -/
  | relative
  /-- The root directory. -/
  | absolute
  /-- The root directory, written with two slashes. -/
  | doubled
  deriving DecidableEq, Repr

/-- A path to a file or directory. -/
structure FilePath where
  /-- What the path starts from. -/
  root : PathRoot
  /-- The names from the root down. -/
  parts : List String
  deriving DecidableEq, Repr

namespace FilePath

/-- What a written path starts from. -/
def rootOf : List Char → PathRoot
  | '/' :: '/' :: '/' :: _ => .absolute
  | '/' :: '/' :: _ => .doubled
  | '/' :: _ => .absolute
  | _ => .relative

/-- A written path. -/
def ofString (s : String) : FilePath where
  root := rootOf s.toList
  parts := ((splitAt '/' s.toList).map String.ofList).filter fun part => part ≠ "" ∧ part ≠ "."

/-- The written form of a root. -/
def rootText : PathRoot → String
  | .relative => ""
  | .absolute => "/"
  | .doubled => "//"

/-- The written form of a path. -/
def text (p : FilePath) : String :=
  if p.root = .relative ∧ p.parts = [] then "."
  else rootText p.root ++ joinWith "/" p.parts

/-- Whether a path starts from the root directory. -/
def isAbsolute (p : FilePath) : Bool :=
  p.root ≠ .relative

/-- A path below another one; an absolute path stands for itself. -/
def join (base p : FilePath) : FilePath :=
  if p.isAbsolute then p else ⟨base.root, base.parts ++ p.parts⟩

/-- The path without its last name. -/
def parent (p : FilePath) : FilePath :=
  ⟨p.root, p.parts.dropLast⟩

/-- The last name of a path, or nothing. -/
def name (p : FilePath) : String :=
  p.parts.getLast?.getD ""

/-- The extension at the end of a file name, with its dot: what follows the last dot, unless that
dot opens or closes the name. -/
def extensionOf (name : List Char) : List Char :=
  let tail := (name.reverse.takeWhile (· != '.')).reverse
  if tail.isEmpty || name.length ≤ tail.length + 1 then [] else '.' :: tail

/-- The extension of a path, with its dot. -/
def extension (p : FilePath) : String :=
  onChars extensionOf p.name

theorem join_relative {base p : FilePath} (h : p.isAbsolute = false) :
    join base p = ⟨base.root, base.parts ++ p.parts⟩ := by
  simp [join, h]

theorem join_absolute {base p : FilePath} (h : p.isAbsolute = true) : join base p = p := by
  simp [join, h]

end FilePath

end LayoutTree
