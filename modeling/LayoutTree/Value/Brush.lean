import LayoutTree.Value.Color
import LayoutTree.Value.Measure

/-!
# Brushes

A brush paints a single color or a gradient. The colors of a gradient stand at evenly spread offsets
from zero to one (`spread`); a linear gradient runs through the middle of the area at an angle
(`axis?`).
-/

namespace LayoutTree

open LayoutTree.Number

/-- A color at an offset along a gradient. -/
structure GradientStop where
  color : Color
  offset : Double
  deriving DecidableEq, Repr

/-- What a brush paints. -/
inductive Paint
  /-- Nothing in particular. -/
  | bare
  /-- A single color. -/
  | solid (color : Color)
  /-- A gradient along a line. -/
  | linear (stops : List GradientStop) (start finish : Point)
  /-- A gradient from a center outwards. -/
  | radial (stops : List GradientStop) (center : Point) (radius : Double)
  deriving DecidableEq, Repr

/-- A brush. -/
structure Brush where
  opacity : Double
  paint : Paint
  deriving DecidableEq, Repr

/-- A kind of brushes. -/
inductive BrushKind
  /-- Every brush. -/
  | any
  | solid
  | linear
  | radial
  deriving DecidableEq, Repr

namespace BrushKind

/-- The name of a kind. -/
def name : BrushKind → String
  | any => "Brush"
  | solid => "SolidColorBrush"
  | linear => "LinearGradientBrush"
  | radial => "RadialGradientBrush"

/-- Whether brushes of the second kind are brushes of the first. -/
def includes : BrushKind → BrushKind → Bool
  | any, _ => true
  | a, b => a = b

end BrushKind

/-- The kind of a brush. -/
def Brush.kind (b : Brush) : BrushKind :=
  match b.paint with
  | .bare => .any
  | .solid _ => .solid
  | .linear .. => .linear
  | .radial .. => .radial

namespace Brush

/-- One half. -/
def half : Double := Double.ofRatio false 1 2

/-- Where a linear gradient starts unless told otherwise. -/
def defaultStart : Point := ⟨0, half⟩

/-- Where a linear gradient ends unless told otherwise. -/
def defaultFinish : Point := ⟨1, half⟩

/-- The middle of the area. -/
def middle : Point := ⟨half, half⟩

/-- The brush of a kind with nothing told about it. -/
def ofKind : BrushKind → Brush
  | .any => ⟨1, .bare⟩
  | .solid => ⟨1, .solid .black⟩
  | .linear => ⟨1, .linear [] defaultStart defaultFinish⟩
  | .radial => ⟨1, .radial [] middle half⟩

/-- Colors spread evenly: the `i`-th of `n` stands at `i / (n - 1)`. -/
def spread (colors : List Color) : List GradientStop :=
  colors.mapIdx fun i c => ⟨c, Double.ofRatio false i (colors.length - 1)⟩

/-- The angle of a straight line. -/
def piFloat : Float := Float.ofBits 0x400921FB54442D18

/-- The ends of the line through the middle of the area at an angle in degrees. An infinite angle
has no line. -/
def axis? (degrees : Double) : Option (Point × Point) :=
  match degrees with
  | .infinite _ => none
  | _ =>
    let angle := degrees.toFloat * (piFloat / 180.0)
    let dx := angle.cos * 0.5
    let dy := angle.sin * 0.5
    some (⟨.ofFloat (0.5 - dx), .ofFloat (0.5 - dy)⟩, ⟨.ofFloat (0.5 + dx), .ofFloat (0.5 + dy)⟩)

theorem length_spread (colors : List Color) : (spread colors).length = colors.length := by
  simp [spread]

theorem color_spread (colors : List Color) : (spread colors).map (·.color) = colors := by
  apply List.ext_getElem <;> simp [spread]

end Brush

end LayoutTree
