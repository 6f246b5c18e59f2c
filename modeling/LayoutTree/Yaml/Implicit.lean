import LayoutTree.Text.Pattern

/-!
# Plain scalars with a type of their own

A plain scalar is a text unless its spelling belongs to another type: truth values, null, numbers,
dates and a few marks. `isPlainText` tells the two apart; a text whose spelling belongs to another
type has to be quoted to stay a text.
-/

namespace LayoutTree.Yaml

open LayoutTree.Text LayoutTree.Text.Pattern

/-- The spellings of null, the truth values and the special marks. -/
def reservedWords : List String := [
  "", "~", "null", "Null", "NULL",
  "yes", "Yes", "YES", "no", "No", "NO", "true", "True", "TRUE", "false", "False", "FALSE",
  "on", "On", "ON", "off", "Off", "OFF",
  "<<", "=", "!", "&", "*"]

/-- A sign or nothing. -/
def sign : Pattern := optional (oneOf "-+")

/-- A digit or an underscore. -/
def digitOrBar : Pattern := one fun c => c == '_' || ('0' ≤ c && c ≤ '9')

/-- Digits and underscores that start with a digit. -/
def barredDigits : Pattern := both digit (many digitOrBar)

/-- Groups of at most two digits up to fifty-nine, each after a colon. -/
def sexagesimal : Pattern :=
  some (row [char ':', optional (oneOf "012345"), digit])

/-- An exponent with its sign, or nothing. -/
def exponent : Pattern :=
  optional (row [oneOf "eE", oneOf "-+", some digit])

/-- The spellings of numbers with a fraction. -/
def fractional : Pattern := anyOf [
  row [sign, barredDigits, char '.', many digitOrBar, exponent],
  row [char '.', barredDigits, exponent],
  row [sign, barredDigits, sexagesimal, char '.', many digitOrBar],
  row [sign, char '.', anyOf [word "inf", word "Inf", word "INF"]],
  row [char '.', anyOf [word "nan", word "NaN", word "NAN"]]]

/-- A digit of base sixteen or an underscore. -/
def hexDigitOrBar : Pattern :=
  one fun c => c == '_' || ('0' ≤ c && c ≤ '9') || ('a' ≤ c && c ≤ 'f') || ('A' ≤ c && c ≤ 'F')

/-- Digits and underscores that start with a digit other than zero. -/
def positiveDigits : Pattern := both (oneOf "123456789") (many digitOrBar)

/-- The spellings of integers. -/
def integral : Pattern := anyOf [
  row [sign, word "0b", some (oneOf "01_")],
  row [sign, char '0', some (oneOf "01234567_")],
  row [sign, either (char '0') positiveDigits],
  row [sign, word "0x", some hexDigitOrBar],
  row [sign, positiveDigits, sexagesimal]]

/-- One or two digits. -/
def oneOrTwoDigits : Pattern := both digit (optional digit)

/-- The zone of a point in time. -/
def zone : Pattern :=
  either (char 'Z')
    (row [oneOf "-+", oneOrTwoDigits, optional (row [char ':', times 2 digit])])

/-- The spellings of dates and points in time. -/
def timestamp : Pattern := anyOf [
  row [times 4 digit, char '-', times 2 digit, char '-', times 2 digit],
  row [times 4 digit, char '-', oneOrTwoDigits, char '-', oneOrTwoDigits,
    either (oneOf "Tt") (some (oneOf " \t")), oneOrTwoDigits, char ':', times 2 digit, char ':',
    times 2 digit, optional (both (char '.') (many digit)),
    optional (both (many (oneOf " \t")) zone)]]

/-- Whether a scalar without quotes is read as a text. -/
def isPlainText (s : List Char) : Bool :=
  !(reservedWords.contains (String.ofList s) || integral.accepts s || fractional.accepts s ||
    timestamp.accepts s)

end LayoutTree.Yaml
