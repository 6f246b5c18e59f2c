import LayoutTree.Data
import LayoutTree.Files.Path
import LayoutTree.Number.Decimal
import LayoutTree.Value.Brush
import LayoutTree.Value.Enumeration
import LayoutTree.Value.Moment

/-!
# Values

What the properties of a node hold after conversion. Structured data is a value too
(`Value.ofData`).
-/

namespace LayoutTree

open LayoutTree.Number

/-- A value of a property. -/
inductive Value
  /-- The absence of a value. -/
  | none
  | truth (b : Bool)
  | integer (n : Int)
  | number (x : Double)
  | decimal (d : Decimal)
  | complex (z : Number.Complex)
  | text (s : String)
  | bytes (b : ByteArray)
  | date (d : Date)
  | time (t : TimeOfDay)
  | dateTime (m : DateTime)
  | duration (d : Duration)
  /-- A universally unique identifier, in its usual written form. -/
  | uuid (text : String)
  | path (p : FilePath)
  /-- A member of an enumeration. -/
  | member (enumeration member : String)
  | color (c : Color)
  | thickness (t : Thickness)
  | cornerRadius (r : CornerRadius)
  | gridLength (g : GridLength)
  | point (p : Point)
  | gradientStop (s : GradientStop)
  | brush (b : Brush)
  | list (items : List Value)
  | tuple (items : List Value)
  /-- Values without order, each once. -/
  | set (items : List Value)
  | dict (entries : List (Value × Value))
  /-- A new object of a class. -/
  | instance (className : String)

namespace Value

mutual

/-- Structured data as a value. -/
def ofData : Data → Value
  | .null => .none
  | .bool b => .truth b
  | .integer n => .integer n
  | .number x => .number x
  | .text s => .text s
  | .list items => .list (ofItems items)
  | .object fields => .dict (ofFields fields)

/-- The items of a list as values. -/
def ofItems : List Data → List Value
  | [] => []
  | v :: vs => ofData v :: ofItems vs

/-- The fields of an object as entries. -/
def ofFields : List (String × Data) → List (Value × Value)
  | [] => []
  | (name, v) :: fields => (.text name, ofData v) :: ofFields fields

end

/-- The number that a value is, if it is one. -/
def number? : Value → Option Double
  | .number x => some x
  | .integer n => some (Double.ofInt n)
  | .truth b => some (if b then 1 else 0)
  | _ => Option.none

end Value

end LayoutTree
