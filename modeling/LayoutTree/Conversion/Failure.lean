import LayoutTree.Conversion.Target
import LayoutTree.Number.Read

/-!
# Failed conversions

Why a raw value could not be converted. A `Cause` says what is wrong with the text; a
`ConversionFailure` is what a conversion reports; a `ConversionFault` may also be a fault of the
target type itself, which no raw value could mend.
-/

namespace LayoutTree

open LayoutTree.Text LayoutTree.Number

/-- What is wrong with a text. -/
inductive Cause
  /-- The text is not a number. -/
  | number (e : ReadError)
  | notTruth (value : String)
  | notDecimal (value : String)
  | notColor (value : String)
  /-- The text has another number of components than are allowed. -/
  | components (value : String) (allowed : String)
  | notMember (value : String) (e : Enumeration)
  | fewColors
  /-- The angle is infinite. -/
  | noAngle
  /-- The text describes a brush of another kind. -/
  | otherBrush (value : String) (found wanted : BrushKind)
  | negativeLength (value : Double)
  /-- A converter from elsewhere has its own message. -/
  | foreign (message : String)
  deriving DecidableEq

namespace Cause

/-- The message about a text. -/
def message : Cause → String
  | .number e => e.message
  | .notTruth value => quoted value ++ " is not a boolean"
  | .notDecimal value => quoted value ++ " is not a decimal number"
  | .notColor value => quoted value ++ " is not a color"
  | .components value allowed => quoted value ++ " must have " ++ allowed ++ " components"
  | .notMember value e =>
    quoted value ++ " is not one of " ++ e.name ++ " members: " ++ joinWith ", " e.names
  | .fewColors => "A gradient needs at least two colors"
  | .noAngle => "math domain error"
  | .otherBrush value found wanted =>
    quoted value ++ " describes a " ++ found.name ++ ", not a " ++ wanted.name
  | .negativeLength value =>
    "1 validation error for GridLength\nvalue\n  Input should be greater than or equal to 0 " ++
      "[type=greater_than_equal, input_value=" ++ value.text ++ ", input_type=float]"
  | .foreign message => message

end Cause

/-- Why a raw value could not be converted. -/
inductive ConversionFailure
  /-- The text does not describe a value of the type. -/
  | malformed (value : String) (target : Target) (cause : Cause)
  /-- Neither the text nor the document in it fits the type. -/
  | unfit (value : String) (target : Target)
  /-- Nothing converts to the type. -/
  | noConverter (value : String) (target : Target)
  /-- A converter from elsewhere refuses. -/
  | refused (message : String)
  deriving DecidableEq

namespace ConversionFailure

/-- The message about a failed conversion. -/
def message : ConversionFailure → String
  | .malformed value target cause =>
    "Cannot convert " ++ quoted value ++ " to " ++ target.name ++ ": " ++ cause.message
  | .unfit value target => "Cannot convert " ++ quoted value ++ " to " ++ target.name
  | .noConverter _ target => "No converter available for " ++ target.name
  | .refused message => message

/-- The raw value that a failure is about. -/
def value? : ConversionFailure → Option String
  | .malformed value .. => some value
  | .unfit value _ => some value
  | .noConverter value _ => some value
  | .refused _ => none

end ConversionFailure

/-- Why a conversion has no result. -/
inductive ConversionFault
  /-- The raw value could not be converted. -/
  | failure (e : ConversionFailure)
  /-- The type cannot be looked up. -/
  | noKey
  /-- Nothing is known about the values of a class. -/
  | noSchema (className : String)
  /-- The type is a name that stands for nothing. -/
  | notDefined (name : String)
  /-- An object of the class cannot be made. -/
  | noObject (message : String)
  deriving DecidableEq

namespace ConversionFault

/-- The message about a missing result. -/
def message : ConversionFault → String
  | .failure e => e.message
  | .noKey => "unhashable type: 'list'"
  | .noSchema className => "No schema is known for class " ++ className
  | .notDefined name =>
    "\x60TypeAdapter[" ++ name ++ "]\x60 is not fully defined; you should define \x60" ++ name ++
      "\x60 and all referenced types, then call \x60.rebuild()\x60 on the instance."
  | .noObject message => message

end ConversionFault

end LayoutTree
