import LayoutTree.Number.Style
import LayoutTree.Text.Search

/-!
# Measures

Spacing, corner radii, relative points and the sizes of grid tracks. The size of a track is never
negative, which the type records.
-/

namespace LayoutTree

open LayoutTree.Number

/-- Spacing on four sides. -/
structure Thickness where
  left : Double
  top : Double
  right : Double
  bottom : Double
  deriving DecidableEq, Repr

/-- The same spacing on all sides. -/
def Thickness.uniform (x : Double) : Thickness := ⟨x, x, x, x⟩

/-- The radii of the four corners of a rectangle. -/
structure CornerRadius where
  topLeft : Double
  topRight : Double
  bottomRight : Double
  bottomLeft : Double
  deriving DecidableEq, Repr

/-- The same radius at all corners. -/
def CornerRadius.uniform (x : Double) : CornerRadius := ⟨x, x, x, x⟩

/-- A point relative to the area of a brush. -/
structure Point where
  x : Double
  y : Double
  deriving DecidableEq, Repr

/-- What a track size counts. -/
inductive GridUnit
  /-- The track is as large as its content. -/
  | auto
  /-- The track has a fixed size. -/
  | pixel
  /-- The track takes a share of what is left. -/
  | star
  deriving DecidableEq, Repr

namespace GridUnit

/-- All units. -/
def all : List GridUnit := [.auto, .pixel, .star]

/-- The name of a unit. -/
def name : GridUnit → String
  | auto => "AUTO"
  | pixel => "PIXEL"
  | star => "STAR"

/-- The text that stands for a unit in a document. -/
def text : GridUnit → String
  | auto => "auto"
  | pixel => "pixel"
  | star => "star"

end GridUnit

/-- The size of a grid track. -/
structure GridLength where
  /-- The size in units. -/
  value : Double
  /-- What the size counts. -/
  unit : GridUnit
  /-- A size is never negative. -/
  nonneg : Double.le 0 value = true
  deriving DecidableEq

namespace GridLength

/-- The size of a given value, unless it is negative. -/
def ofValue? (value : Double) (unit : GridUnit) : Option GridLength :=
  if h : Double.le 0 value = true then some ⟨value, unit, h⟩ else none

theorem one_nonneg : Double.le 0 1 = true := by decide +kernel

/-- One share of the space that is left. -/
def share : GridLength := ⟨1, .star, one_nonneg⟩

/-- The text of a track size. -/
def text (g : GridLength) : String :=
  match g.unit with
  | .auto => "Auto"
  | .pixel => g.value.brief
  | .star => if Double.eq g.value 1 then "*" else g.value.brief ++ "*"

end GridLength

end LayoutTree
