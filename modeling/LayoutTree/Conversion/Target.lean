import LayoutTree.Text.Search
import LayoutTree.Value.Brush
import LayoutTree.Value.Enumeration

/-!
# Target types

The types that raw values are converted to. A type that allows absence is a union with `nothing`;
`Target.unwrapped` takes the one other member out (`unwrapped_optional`).
-/

namespace LayoutTree

open LayoutTree.Text

/-- A kind of records. -/
inductive RecordKind
  | thickness
  | cornerRadius
  | gridLength
  | color
  | point
  | gradientStop
  | brush (kind : BrushKind)
  deriving DecidableEq, Repr

/-- The name of a kind of records. -/
def RecordKind.name : RecordKind → String
  | thickness => "Thickness"
  | cornerRadius => "CornerRadius"
  | gridLength => "GridLength"
  | color => "Color"
  | point => "Point"
  | gradientStop => "GradientStop"
  | brush kind => kind.name

/-- What becomes of an attempt to make an object of a class from nothing. -/
inductive Construction
  /-- A new object. -/
  | object
  /-- The class needs something to make an object from. -/
  | incomplete
  /-- The attempt fails with a message. -/
  | fails (message : String)
  deriving DecidableEq, Repr

/-- A type that a raw value is converted to. -/
inductive Target
  | text
  | integer
  | number
  | truth
  | decimal
  | complex
  /-- Any value at all. -/
  | any
  /-- Any object. -/
  | object
  /-- Only the absence of a value. -/
  | nothing
  | bytes
  | date
  | time
  | dateTime
  | duration
  | uuid
  | path
  | list (item : Target)
  | set (item : Target)
  | tuple (items : List Target)
  | dict (key value : Target)
  /-- One of some texts. -/
  | choice (options : List String)
  /-- A value of any of the members. -/
  | union (members : List Target)
  /-- A type with a note by which it cannot be looked up. -/
  | annotated (base : Target)
  | enumeration (e : Enumeration)
  | record (kind : RecordKind)
  /-- The objects of a class that nothing else is known about. -/
  | kind (name : String) (construction : Construction)
  /-- A name that stands for no type. -/
  | undefined (name : String)
  deriving Repr

namespace Target

/-! ## Equality -/

mutual

/-- Whether two types are the same. -/
def same : Target → Target → Bool
  | .text, .text => true
  | .integer, .integer => true
  | .number, .number => true
  | .truth, .truth => true
  | .decimal, .decimal => true
  | .complex, .complex => true
  | .any, .any => true
  | .object, .object => true
  | .nothing, .nothing => true
  | .bytes, .bytes => true
  | .date, .date => true
  | .time, .time => true
  | .dateTime, .dateTime => true
  | .duration, .duration => true
  | .uuid, .uuid => true
  | .path, .path => true
  | .list a, .list b => same a b
  | .set a, .set b => same a b
  | .tuple as, .tuple bs => sameAll as bs
  | .dict k v, .dict k' v' => same k k' && same v v'
  | .choice a, .choice b => a = b
  | .union as, .union bs => sameAll as bs
  | .annotated a, .annotated b => same a b
  | .enumeration e, .enumeration f => e = f
  | .record a, .record b => a = b
  | .kind n c, .kind m d => n = m && c = d
  | .undefined n, .undefined m => n = m
  | _, _ => false

/-- Whether two lists hold the same types. -/
def sameAll : List Target → List Target → Bool
  | [], [] => true
  | a :: as, b :: bs => same a b && sameAll as bs
  | _, _ => false

end

mutual

theorem same_iff (a b : Target) : same a b = true ↔ a = b := by
  cases a <;> cases b <;> simp [same, same_iff, sameAll_iff]

theorem sameAll_iff (as bs : List Target) : sameAll as bs = true ↔ as = bs := by
  cases as <;> cases bs <;> simp [sameAll, same_iff, sameAll_iff]

end

instance : DecidableEq Target := fun a b => decidable_of_iff _ (same_iff a b)

/-! ## Absence and names -/

/-- The type with absence allowed. -/
def optional (t : Target) : Target := .union [t, .nothing]

/-- The type without the permission to be absent; a choice between several types stays as it is. -/
def unwrapped : Target → Target
  | .union members =>
    match members.filter fun t => t ≠ .nothing with
    | [t] => t
    | _ => .union members
  | t => t

mutual

/-- The name of a type in messages. -/
def name : Target → String
  | .text => "str"
  | .integer => "int"
  | .number => "float"
  | .truth => "bool"
  | .decimal => "Decimal"
  | .complex => "complex"
  | .any => "Any"
  | .object => "object"
  | .nothing => "NoneType"
  | .bytes => "bytes"
  | .date => "date"
  | .time => "time"
  | .dateTime => "datetime"
  | .duration => "timedelta"
  | .uuid => "UUID"
  | .path => "Path"
  | .list _ => "list"
  | .set _ => "set"
  | .tuple _ => "tuple"
  | .dict .. => "dict"
  | .choice _ => "Literal"
  | .union members => joinWith " | " (memberNames members)
  | .annotated _ => "Annotated"
  | .enumeration e => e.name
  | .record k => k.name
  | .kind name _ => name
  | .undefined name => name

/-- The names of the members of a union. -/
def memberNames : List Target → List String
  | [] => []
  | .nothing :: ts => "None" :: memberNames ts
  | t :: ts => name t :: memberNames ts

end

/-- Whether a raw text is a value of the type as it is. -/
def acceptsText (t : Target) : Bool :=
  match t.unwrapped with
  | .text => true
  | .any => true
  | .object => true
  | .list item => item = .text
  | .set item => item = .text
  | .tuple items => items.contains .text
  | .dict key value => key = .text || value = .text
  | .union members => members.contains .text
  | _ => false

mutual

/-- Whether a type can be looked up: there is no note in it. -/
def isKey : Target → Bool
  | .annotated _ => false
  | .list item => isKey item
  | .set item => isKey item
  | .tuple items => areKeys items
  | .dict key value => isKey key && isKey value
  | .union members => areKeys members
  | _ => true

/-- Whether all of some types can be looked up. -/
def areKeys : List Target → Bool
  | [] => true
  | t :: ts => isKey t && areKeys ts

end

theorem unwrapped_optional (t : Target) (h : t ≠ .nothing) : t.optional.unwrapped = t := by
  simp [optional, unwrapped, h]

end Target

end LayoutTree
