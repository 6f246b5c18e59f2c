import LayoutTree.Conversion.Failure
import LayoutTree.Registry.Chain
import LayoutTree.Value.Value

/-!
# Converters

A converter claims types and turns texts into their values. The converters of the library serve
brushes, colors, font weights, track sizes, corner radii, spacing, enumerations and the primitive
types, and are asked in this order.
-/

namespace LayoutTree

open LayoutTree.Text LayoutTree.Number

/-- Why a converter has no value for a text. -/
inductive Refusal
  /-- Something is wrong with the text. -/
  | cause (c : Cause)
  /-- The converter reports a failure of its own. -/
  | own (message : String)
  deriving DecidableEq

/-- A way to convert texts to some types. -/
structure Converter where
  /-- What tells the converter apart from others. -/
  key : String
  /-- The name of its kind. -/
  name : String
  /-- Whether it serves a type. -/
  claims : Target → Bool
  /-- The value of a type that a text describes; the text is never empty. -/
  convert : String → Target → Except Refusal Value

instance : Keyed Converter := ⟨Converter.key⟩

/-- The written form of a converter. -/
def Converter.text (c : Converter) : String := c.name ++ "()"

namespace Convert

/-- A refusal for a cause. -/
def wrong {α : Type} (c : Cause) : Except Refusal α := .error (.cause c)

/-- A number, or the cause why the text is none. -/
def number {α : Type} (r : Except ReadError α) : Except Refusal α :=
  match r with
  | .ok a => .ok a
  | .error e => wrong (.number e)

/-- A text without the blanks around it. -/
def bare (s : String) : String := trimmed s

/-! ## Primitive types -/

/-- The words that mean yes. -/
def yesWords : List String := ["true", "1", "yes", "y", "si", "sí", "on"]

/-- The words that mean no. -/
def noWords : List String := ["false", "0", "no", "n", "off"]

/-- A truth value by its word. -/
def truth (value : String) : Except Refusal Bool :=
  let word := folded (bare value)
  if yesWords.contains word then .ok true
  else if noWords.contains word then .ok false
  else wrong (.notTruth value)

/-- A decimal. -/
def decimal (value : String) : Except Refusal Decimal :=
  match Decimal.read? value.toList with
  | some d => .ok d
  | none => wrong (.notDecimal value)

/-- A complex number; spaces do not count. -/
def complex (value : String) : Except Refusal Number.Complex :=
  number (Number.Complex.read (onChars (without ' ') (bare value)))

/-- A value of a primitive type. -/
def primitive (value : String) : Target → Except Refusal Value
  | .text => .ok (.text value)
  | .truth => (truth value).map .truth
  | .integer => (number (readInt 10 (bare value))).map .integer
  | .number => (number (readDouble (bare value))).map .number
  | .decimal => (decimal value).map .decimal
  | .complex => (complex value).map .complex
  | _ => wrong (.foreign "")

/-- The primitive types. -/
def primitiveTypes : List Target := [.text, .truth, .integer, .number, .decimal, .complex]

/-! ## Enumerations -/

/-- The member of an enumeration that a text names, by its name, its text or its number. -/
def member? (e : Enumeration) (value : String) : Option String :=
  let key := symbol value.toList
  let byName := e.members.find? fun m => symbol m.1.toList = key
  let byText := e.members.find? fun m =>
    match m.2 with
    | .text s => symbol s.toList = key
    | .integer _ => false
  match byName.or byText with
  | some m => some m.1
  | none => (readInt 10 (bare value)).toOption.bind e.ofInteger?

/-- A member of an enumeration. -/
def member (e : Enumeration) (value : String) : Except Refusal Value :=
  match member? e value with
  | some m => .ok (.member e.name m)
  | none => wrong (.notMember value e)

/-- Further names of font weights. -/
def weightAliases : List (String × String) := [
  ("hairline", "THIN"), ("ultralight", "EXTRA_LIGHT"), ("semilight", "SEMI_LIGHT"),
  ("regular", "NORMAL"), ("demibold", "SEMI_BOLD"), ("ultrabold", "EXTRA_BOLD"),
  ("heavy", "BLACK"), ("ultrablack", "EXTRA_BLACK")]

/-- A font weight. -/
def fontWeight (value : String) : Except Refusal Value :=
  match weightAliases.lookup (String.ofList (symbol value.toList)) with
  | some m => .ok (.member Enumeration.fontWeight.name m)
  | none => member .fontWeight value

/-! ## Measures -/

/-- The numbers of a text, separated by blanks and commas. -/
def numbers (value : String) : Except ReadError (List Double) :=
  (words (fun c => isBlank c || c = ',') value.toList).mapM fun part => readDouble (String.ofList part)

/-- Spacing: one number, one for each direction, or one for each side. -/
def thickness (value : String) : Except Refusal Thickness := do
  match ← number (numbers value) with
  | [x] => .ok (.uniform x)
  | [x, y] => .ok ⟨x, y, x, y⟩
  | [left, top, right, bottom] => .ok ⟨left, top, right, bottom⟩
  | _ => wrong (.components value "1, 2 or 4")

/-- Corner radii: one number, or one for each corner. -/
def cornerRadius (value : String) : Except Refusal CornerRadius := do
  match ← number (numbers value) with
  | [x] => .ok (.uniform x)
  | [a, b, c, d] => .ok ⟨a, b, c, d⟩
  | _ => wrong (.components value "1 or 4")

/-- A track size of a given value. -/
def lengthOf (x : Double) (unit : GridUnit) : Except Refusal GridLength :=
  match GridLength.ofValue? x unit with
  | some g => .ok g
  | none => wrong (.negativeLength x)

/-- A track size: `Auto`, a number with a star, a star alone, or a number. -/
def gridLength (value : String) : Except Refusal GridLength :=
  let text := trim value.toList
  if fold text = "auto".toList then .ok ⟨1, .auto, GridLength.one_nonneg⟩
  else if text.getLast? = some '*' then
    let weight := trim text.dropLast
    if weight.isEmpty then .ok .share
    else do lengthOf (← number (readDouble (String.ofList weight))) .star
  else do lengthOf (← number (readDouble (String.ofList text))) .pixel

/-! ## Colors and brushes -/

/-- A color. -/
def color (value : String) : Except Refusal Color :=
  match Color.ofChars? value.toList with
  | some c => .ok c
  | none => wrong (.notColor value)

/-- The colors of a gradient, evenly spread. -/
def stops (colors : List String) : Except Refusal (List GradientStop) :=
  if colors.length < 2 then wrong .fewColors else (colors.mapM color).map Brush.spread

/-- The parts of a gradient between commas, without the blanks around them. -/
def gradientParts (definition : List Char) : List String :=
  (splitAt ',' definition).map fun part => String.ofList (trim part)

/-- The colors and the angle of a linear gradient. The last of more than two parts is the angle, if
it is a number. -/
def angleOf (parts : List String) : List String × Double :=
  if parts.length ≤ 2 then (parts, 0)
  else
    match (readDouble (parts.getLast?.getD "")).toOption with
    | some angle => (parts.dropLast, angle)
    | none => (parts, 0)

/-- A linear gradient. -/
def linear (definition : List Char) : Except Refusal Brush :=
  let (colors, angle) := angleOf (gradientParts definition)
  match Brush.axis? angle with
  | none => wrong .noAngle
  | some (start, finish) => (stops colors).map fun s => ⟨1, .linear s start finish⟩

/-- A radial gradient. -/
def radial (definition : List Char) : Except Refusal Brush :=
  (stops (gradientParts definition)).map fun s => ⟨1, .radial s Brush.middle Brush.half⟩

/-- The word in front of a linear gradient. -/
def linearMark : List Char := "lineargradient:".toList

/-- The word in front of a radial gradient. -/
def radialMark : List Char := "radialgradient:".toList

/-- A brush of some kind. -/
def anyBrush (value : String) : Except Refusal Brush :=
  let text := trim value.toList
  if linearMark.isPrefixOf (fold text) then linear (text.drop linearMark.length)
  else if radialMark.isPrefixOf (fold text) then radial (text.drop radialMark.length)
  else (color (String.ofList text)).map fun c => ⟨1, .solid c⟩

/-- A brush of a given kind. -/
def brush (kind : BrushKind) (value : String) : Except Refusal Brush := do
  let b ← anyBrush value
  if kind.includes b.kind then .ok b else wrong (.otherBrush value b.kind kind)

end Convert

namespace Converter

/-- A converter of the library. -/
def builtIn (name : String) (claims : Target → Bool)
    (convert : String → Target → Except Refusal Value) : Converter :=
  ⟨name, name, claims, convert⟩

/-- The converter to brushes. -/
def toBrush : Converter :=
  builtIn "BrushConverter" (fun | .record (.brush _) => true | _ => false) fun value target =>
    match target with
    | .record (.brush kind) => (Convert.brush kind value).map .brush
    | _ => Convert.wrong (.foreign "")

/-- The converter to colors. -/
def toColor : Converter :=
  builtIn "ColorConverter" (· = .record .color) fun value _ => (Convert.color value).map .color

/-- The converter to font weights. -/
def toFontWeight : Converter :=
  builtIn "FontWeightConverter" (· = .enumeration .fontWeight) fun value _ => Convert.fontWeight value

/-- The converter to track sizes. -/
def toGridLength : Converter :=
  builtIn "GridLengthConverter" (· = .record .gridLength) fun value _ =>
    (Convert.gridLength value).map .gridLength

/-- The converter to corner radii. -/
def toCornerRadius : Converter :=
  builtIn "CornerRadiusConverter" (· = .record .cornerRadius) fun value _ =>
    (Convert.cornerRadius value).map .cornerRadius

/-- The converter to spacing. -/
def toThickness : Converter :=
  builtIn "ThicknessConverter" (· = .record .thickness) fun value _ =>
    (Convert.thickness value).map .thickness

/-- The converter to members of enumerations. -/
def toMember : Converter :=
  builtIn "EnumConverter" (fun | .enumeration _ => true | _ => false) fun value target =>
    match target with
    | .enumeration e => Convert.member e value
    | _ => Convert.wrong (.foreign "")

/-- The converter to the primitive types. -/
def toPrimitive : Converter :=
  builtIn "PrimitiveConverter" (Convert.primitiveTypes.contains ·) Convert.primitive

/-- The converters of the library in the order in which they are asked. -/
def standard : Chain Converter :=
  ⟨[toBrush, toColor, toFontWeight, toGridLength, toCornerRadius, toThickness, toMember, toPrimitive]⟩

end Converter

end LayoutTree
