import LayoutTree.Data.Step
import LayoutTree.Number.Read
import LayoutTree.Value.Value
import LayoutTree.Conversion.Target

/-!
# Records in structured data

Reading the records of the library from structured data. Unlike a layout document, a record reports
everything that is wrong with it: the violations of its fields in the order of the fields, then the
fields that it does not have (`Checked.along`).
-/

namespace LayoutTree

open LayoutTree.Text LayoutTree.Number

/-- What is wrong with a part of a record. -/
inductive Defect
  | missing
  | unknownField
  | notNumber
  | unreadableNumber
  | notInteger
  | unreadableInteger
  | fractional
  | notFinite
  /-- The number is smaller than a bound. -/
  | below (bound : Int)
  /-- The number is greater than a bound. -/
  | above (bound : Int)
  /-- The number is not greater than a bound. -/
  | notAbove (bound : Int)
  | notMember (options : List String)
  /-- The value is no record of a kind. -/
  | notRecord (name : String)
  | notTuple
  | notText
  | notTruth
  | unreadableTruth
  | notOption (options : List String)
  deriving DecidableEq, Repr

namespace Defect

/-- The texts in quotes, the last two joined by a word. -/
def alternatives : List String → String
  | [] => ""
  | [a] => quoted a
  | [a, b] => quoted a ++ " or " ++ quoted b
  | a :: rest => quoted a ++ ", " ++ alternatives rest

/-- The code of a defect. -/
def code : Defect → String
  | missing => "missing"
  | unknownField => "extra_forbidden"
  | notNumber => "float_type"
  | unreadableNumber => "float_parsing"
  | notInteger => "int_type"
  | unreadableInteger => "int_parsing"
  | fractional => "int_from_float"
  | notFinite => "finite_number"
  | below _ => "greater_than_equal"
  | above _ => "less_than_equal"
  | notAbove _ => "greater_than"
  | notMember _ => "enum"
  | notRecord _ => "model_type"
  | notTuple => "tuple_type"
  | notText => "string_type"
  | notTruth => "bool_type"
  | unreadableTruth => "bool_parsing"
  | notOption _ => "literal_error"

/-- The message about a defect. -/
def message : Defect → String
  | missing => "Field required"
  | unknownField => "Extra inputs are not permitted"
  | notNumber => "Input should be a valid number"
  | unreadableNumber => "Input should be a valid number, unable to parse string as a number"
  | notInteger => "Input should be a valid integer"
  | unreadableInteger => "Input should be a valid integer, unable to parse string as an integer"
  | fractional => "Input should be a valid integer, got a number with a fractional part"
  | notFinite => "Input should be a finite number"
  | below bound => "Input should be greater than or equal to " ++ toString bound
  | above bound => "Input should be less than or equal to " ++ toString bound
  | notAbove bound => "Input should be greater than " ++ toString bound
  | notMember options => "Input should be " ++ alternatives options
  | notRecord name => "Input should be a valid dictionary or instance of " ++ name
  | notTuple => "Input should be a valid tuple"
  | notText => "Input should be a valid string"
  | notTruth => "Input should be a valid boolean"
  | unreadableTruth => "Input should be a valid boolean, unable to interpret input"
  | notOption options => "Input should be " ++ alternatives options

end Defect

/-- A defect and the place where it is. -/
structure RecordViolation where
  /-- The steps from the record to the defect. -/
  path : List Step
  /-- The defect. -/
  defect : Defect
  deriving DecidableEq, Repr

/-- A checked reading: a value, or all that is wrong. -/
inductive Checked (α : Type)
  | ok (a : α)
  | wrong (violations : List RecordViolation)

namespace Checked

variable {α β : Type}

/-- A reading with one defect. -/
def defect (d : Defect) : Checked α := .wrong [⟨[], d⟩]

/-- A reading one step further out. -/
def within (step : Step) : Checked α → Checked α
  | .ok a => .ok a
  | .wrong vs => .wrong (vs.map fun v => ⟨step :: v.path, v.defect⟩)

/-- The value changed. -/
def map (f : α → β) : Checked α → Checked β
  | .ok a => .ok (f a)
  | .wrong vs => .wrong vs

/-- A reading that depends on the value of another. -/
def bind : Checked α → (α → Checked β) → Checked β
  | .ok a, f => f a
  | .wrong vs, _ => .wrong vs

/-- Two readings side by side: what is wrong with either is wrong with both. -/
def along : Checked (α → β) → Checked α → Checked β
  | .ok f, .ok a => .ok (f a)
  | .ok _, .wrong vs => .wrong vs
  | .wrong vs, .ok _ => .wrong vs
  | .wrong vs, .wrong ws => .wrong (vs ++ ws)

/-- The value, if nothing is wrong. -/
def toOption : Checked α → Option α
  | .ok a => some a
  | .wrong _ => none

/-- All that is wrong. -/
def violations : Checked α → List RecordViolation
  | .ok _ => []
  | .wrong vs => vs

theorem violations_along (f : Checked (α → β)) (a : Checked α) :
    (f.along a).violations = f.violations ++ a.violations := by
  cases f <;> cases a <;> simp [along, violations]

end Checked

namespace Record

/-! ## Numbers -/

/-- The digits of a text without the single underscores between them. -/
def dropUnderscores? : List Char → Option (List Char)
  | [] => some []
  | ['_'] => none
  | '_' :: '_' :: _ => none
  | '_' :: s => dropUnderscores? s
  | c :: s => (dropUnderscores? s).map (c :: ·)

/-- A text as an integer, perhaps with zeros after a point. -/
def integerOfText? (s : String) : Option Int :=
  let (negative, s) := match trim s.toList with
    | '-' :: s => (true, s)
    | '+' :: s => (false, s)
    | s => (false, s)
  let whole := s.takeWhile (· ≠ '.')
  if (s.dropWhile (· ≠ '.')).drop 1 |>.any (· ≠ '0') then none
  else if whole.head? = some '_' then none
  else
    match dropUnderscores? whole with
    | some ds =>
      if ds.isEmpty || !ds.all Char.isDigit || (negative && ds.head? = some '0' && ds.length ≠ 1) then
        none
      else
        let n := digitsValue ds
        some (if negative then -n else n)
    | none => none

/-- A value read as an integer: numbers without a fraction, truth values and texts will do. -/
def integer : Data → Checked Int
  | .integer n => .ok n
  | .bool b => .ok (if b then 1 else 0)
  | .number x =>
    if x.isFinite then
      match x.toInt? with
      | some n => .ok n
      | none => .defect .fractional
    else .defect .notFinite
  | .text s =>
    match integerOfText? s with
    | some n => .ok n
    | none => .defect .unreadableInteger
  | _ => .defect .notInteger

/-- A text as a number. -/
def numberOfText? (s : String) : Option Double :=
  let t := trim s.toList
  if t.all fun c => c.toNat < 128 then readDouble? t else none

/-- A value read as a number: truth values and texts will do. -/
def number : Data → Checked Double
  | .number x => .ok x
  | .integer n => .ok (Double.ofInt n)
  | .bool b => .ok (if b then 1 else 0)
  | .text s =>
    match numberOfText? s with
    | some x => .ok x
    | none => .defect .unreadableNumber
  | _ => .defect .notNumber

/-- A channel of a color. -/
def channel (v : Data) : Checked UInt8 :=
  (integer v).bind fun n =>
    if 255 < n then .defect (.above 255)
    else if n < 0 then .defect (.below 0)
    else .ok (UInt8.ofNat n.toNat)

/-- A number from zero to one. -/
def fraction (v : Data) : Checked Double :=
  (number v).bind fun x =>
    if Double.le x 1 then if Double.le 0 x then .ok x else .defect (.below 0)
    else .defect (.above 1)

/-! ## Truth values, texts and lists -/

/-- The words that are truth values, in any case. -/
def truthWords : List (String × Bool) := [
  ("1", true), ("on", true), ("t", true), ("true", true), ("y", true), ("yes", true),
  ("0", false), ("off", false), ("f", false), ("false", false), ("n", false), ("no", false)]

/-- The bound of the integers that a truth value is read from, two to the power of 63. -/
def wordBound : Int := 0x8000000000000000

/-- The integers that a truth value is read from. -/
def isWord (n : Int) : Bool := -wordBound ≤ n && n < wordBound

/-- An integer as a truth value. -/
def truthOfInteger (n : Int) : Checked Bool :=
  if n = 0 then .ok false else if n = 1 then .ok true else .defect .unreadableTruth

/-- A value read as a truth value: the words of `truthWords`, zero and one will do. -/
def truth : Data → Checked Bool
  | .bool b => .ok b
  | .text s =>
    match truthWords.lookup (onChars lower s) with
    | some b => .ok b
    | none => .defect .unreadableTruth
  | .integer n => if isWord n then truthOfInteger n else .defect .notTruth
  | .number x =>
    match x.toInt? with
    | some n => if isWord n && n ≠ -wordBound then truthOfInteger n else .defect .notTruth
    | none => .defect .notTruth
  | _ => .defect .notTruth

/-- A value read as a text: only texts will do. -/
def text : Data → Checked String
  | .text s => .ok s
  | _ => .defect .notText

/-- A value read as one of some texts. -/
def option {α : Type} (options : List (String × α)) (v : Data) : Checked α :=
  let found := match v with
    | .text s => options.lookup s
    | _ => none
  match found with
  | some a => .ok a
  | none => .defect (.notOption (options.map (·.1)))

/-- The items of a list, counted from `index`. -/
def items {α : Type} (read : Data → Checked α) (index : Nat) : List Data → Checked (List α)
  | [] => .ok []
  | v :: rest => (((read v).within (.item index)).map List.cons).along (items read (index + 1) rest)

/-- A value read as a list. -/
def listOf {α : Type} (read : Data → Checked α) : Data → Checked (List α)
  | .list vs => items read 0 vs
  | _ => .defect .notTuple

/-! ## Fields -/

/-- A field of a record. Without a value of its own, a missing field is a defect. -/
def field {α : Type} (fields : List (String × Data)) (name : String) (read : Data → Checked α)
    (default : Option α) : Checked α :=
  match Data.field? fields name with
  | some v => (read v).within (.field name)
  | none =>
    match default with
    | some a => .ok a
    | none => .wrong [⟨[.field name], .missing⟩]

/-- A record as read, unless it has fields that it should not have. -/
def closed {α : Type} (known : List String) (fields : List (String × Data)) (r : Checked α) :
    Checked α :=
  let unknown := (fields.filter fun f => !known.contains f.1).map fun f =>
    (⟨[.field f.1], .unknownField⟩ : RecordViolation)
  match r with
  | .ok a => if unknown.isEmpty then .ok a else .wrong unknown
  | .wrong vs => .wrong (vs ++ unknown)

/-- A record in a field, or the defect that there is none. -/
def ofObject {α : Type} (name : String) (read : List (String × Data) → Checked α) :
    Data → Checked α
  | .object fields => read fields
  | _ => .defect (.notRecord name)

/-! ## The records -/

/-- Spacing. -/
def thickness (fields : List (String × Data)) : Checked Thickness :=
  let side := fun name => field fields name number (some 0)
  closed ["left", "top", "right", "bottom"] fields <|
    ((((side "left").map Thickness.mk).along (side "top")).along (side "right")).along (side "bottom")

/-- Corner radii. -/
def cornerRadius (fields : List (String × Data)) : Checked CornerRadius :=
  let corner := fun name => field fields name number (some 0)
  closed ["top_left", "top_right", "bottom_right", "bottom_left"] fields <|
    ((((corner "top_left").map CornerRadius.mk).along (corner "top_right")).along
      (corner "bottom_right")).along (corner "bottom_left")

/-- A point. -/
def point (fields : List (String × Data)) : Checked Point :=
  let coordinate := fun name => field fields name number (some 0)
  closed ["x", "y"] fields <| ((coordinate "x").map Point.mk).along (coordinate "y")

/-- A color. -/
def color (fields : List (String × Data)) : Checked Color :=
  let part := fun name default => field fields name channel (some default)
  closed ["r", "g", "b", "a"] fields <|
    ((((part "r" 0).map Color.mk).along (part "g" 0)).along (part "b" 0)).along (part "a" 255)

/-- The size of a track that is not negative. -/
def length (v : Data) : Checked (GridUnit → GridLength) :=
  (number v).bind fun x =>
    if h : Double.le 0 x = true then .ok fun unit => ⟨x, unit, h⟩ else .defect (.below 0)

/-- The unit of a track size. -/
def unit (v : Data) : Checked GridUnit :=
  let found := match v with
    | .text s => GridUnit.all.find? (·.text = s)
    | _ => none
  match found with
  | some u => .ok u
  | none => .defect (.notMember (GridUnit.all.map GridUnit.text))

/-- A track size. -/
def gridLength (fields : List (String × Data)) : Checked GridLength :=
  closed ["value", "unit"] fields <|
    (field fields "value" length (some fun u => ⟨1, u, GridLength.one_nonneg⟩)).along
      (field fields "unit" unit (some .star))

/-- A color of a gradient. -/
def gradientStop (fields : List (String × Data)) : Checked GradientStop :=
  closed ["color", "offset"] fields <|
    ((field fields "color" (ofObject "Color" color) none).map GradientStop.mk).along
      (field fields "offset" fraction none)

/-- The colors of a gradient. -/
def stops : Data → Checked (List GradientStop) := listOf (ofObject "GradientStop" gradientStop)

/-- A radius greater than zero. -/
def radius (v : Data) : Checked Double :=
  (number v).bind fun x => if Double.lt 0 x then .ok x else .defect (.notAbove 0)

/-- A brush of a kind. -/
def brush (kind : BrushKind) (fields : List (String × Data)) : Checked Brush :=
  let opacity := field fields "opacity" fraction (some 1)
  let place := fun name default => field fields name (ofObject "Point" point) (some default)
  match kind with
  | .any => closed ["opacity"] fields <| opacity.map fun o => ⟨o, .bare⟩
  | .solid =>
    closed ["opacity", "color"] fields <|
      (opacity.map fun o c => Brush.mk o (.solid c)).along
        (field fields "color" (ofObject "Color" color) (some .black))
  | .linear =>
    closed ["opacity", "stops", "start", "end"] fields <|
      (((opacity.map fun o s p q => Brush.mk o (.linear s p q)).along
        (field fields "stops" stops (some []))).along (place "start" Brush.defaultStart)).along
          (place "end" Brush.defaultFinish)
  | .radial =>
    closed ["opacity", "stops", "center", "radius"] fields <|
      (((opacity.map fun o s p r => Brush.mk o (.radial s p r)).along
        (field fields "stops" stops (some []))).along (place "center" Brush.middle)).along
          (field fields "radius" radius (some Brush.half))

/-- A record of a kind. -/
def read (kind : RecordKind) (fields : List (String × Data)) : Checked Value :=
  match kind with
  | .thickness => (thickness fields).map .thickness
  | .cornerRadius => (cornerRadius fields).map .cornerRadius
  | .gridLength => (gridLength fields).map .gridLength
  | .color => (color fields).map .color
  | .point => (point fields).map .point
  | .gradientStop => (gradientStop fields).map .gradientStop
  | .brush kind => (brush kind fields).map .brush

end Record

end LayoutTree
