import LayoutTree.Number.Read

/-!
# Exact decimals and complex numbers

A `Decimal` keeps the digits and the exponent it was written with, so `0.10` and `0.1` differ. A
`Complex` is a pair of doubles, written with `j` after the imaginary part and perhaps between
brackets.
-/

namespace LayoutTree.Number

open LayoutTree.Text

/-- An exact decimal number. -/
inductive Decimal
  /-- The number `± digits · 10 ^ exponent`. -/
  | finite (negative : Bool) (digits : Nat) (exponent : Int)
  /-- An infinity with its sign. -/
  | infinite (negative : Bool)
  /-- Not a number, with the digits written after it; a signalling one is marked. -/
  | nan (negative signalling : Bool) (payload : Nat)
  deriving DecidableEq, Repr

namespace Decimal

/-- The greatest exponent of the first digit. -/
def maxAdjusted : Int := 999999999999999999

/-- The least exponent of the last digit. -/
def minExponent : Int := -1999999999999999997

/-- The digits after `nan`, if there is nothing else. -/
def payload? (s : List Char) : Option Nat :=
  if s.all isDigitChar then some (digitsValue s) else none

/-- A text without sign, blanks and underscores read as a decimal. -/
def readUnsigned? (negative : Bool) (s : List Char) : Option Decimal :=
  match scanDecimal? s with
  | some (digits, e, []) =>
    let size : Int := (Nat.toDigits 10 digits).length
    if size + e - 1 ≤ maxAdjusted ∧ minExponent ≤ e then some (.finite negative digits e) else none
  | some _ => none
  | none =>
    let word := s.map Char.toLower
    if word = "infinity".toList ∨ word = "inf".toList then some (.infinite negative)
    else if startsWithWord "nan".toList s then
      (payload? (s.drop 3)).map (.nan negative false)
    else if startsWithWord "snan".toList s then
      (payload? (s.drop 4)).map (.nan negative true)
    else none

/-- A text read as a decimal. Underscores may stand anywhere. -/
def read? (s : List Char) : Option Decimal :=
  let t := (plainChars (trim s)).filter (· != '_')
  let (negative, u) := scanSign t
  readUnsigned? negative u

/-- The text of a decimal: its own digits, with an exponent where the point would stand far away. -/
def text : Decimal → String
  | .infinite negative => (if negative then "-" else "") ++ "Infinity"
  | .nan negative signalling payload =>
    (if negative then "-" else "") ++ (if signalling then "sNaN" else "NaN") ++
      (if payload = 0 then "" else toString payload)
  | .finite negative digits exponent =>
    let ds := Nat.toDigits 10 digits
    let point : Int := exponent + ds.length
    let body : List Char :=
      if exponent ≤ 0 ∧ -6 < point then
        if point ≤ 0 then '0' :: '.' :: (List.replicate (-point).toNat '0' ++ ds)
        else if exponent = 0 then ds
        else ds.take point.toNat ++ '.' :: ds.drop point.toNat
      else
        let fraction := ds.drop 1
        let e := point - 1
        ds.take 1 ++ (if fraction.isEmpty then [] else '.' :: fraction) ++
          (if e = 0 then [] else 'E' :: (if e < 0 then '-' else '+') :: Nat.toDigits 10 e.natAbs)
    (if negative then "-" else "") ++ String.ofList body

end Decimal

/-- A complex number with parts of double precision. -/
structure Complex where
  real : Double
  imaginary : Double
  deriving DecidableEq, Repr

namespace Complex

/-- Whether a character marks the imaginary part. -/
def isUnit (c : Char) : Bool :=
  c == 'j' || c == 'J'

/-- The rest after the mark of the imaginary part. -/
def afterUnit? : List Char → Option (List Char)
  | c :: r => if isUnit c then some r else none
  | [] => none

/-- One in the imaginary direction, after a sign. -/
def unitOf (negative : Bool) : Double :=
  if negative then .neg 1 else 1

/-- The complex number at the start of a text, and the rest. A missing number before the mark of the
imaginary part counts as one. -/
def scan? (s : List Char) : Option (Complex × List Char) :=
  match scanDouble? s with
  | some (z, '+' :: r) => signed z false r ('+' :: r)
  | some (z, '-' :: r) => signed z true r ('-' :: r)
  | some (z, r) =>
    match afterUnit? r with
    | some r => some (⟨.zero false, z⟩, r)
    | none => some (⟨z, .zero false⟩, r)
  | none =>
    let (negative, r) := scanSign s
    (afterUnit? r).map fun r => (⟨.zero false, unitOf negative⟩, r)
where
  /-- The imaginary part after the real part `x`: a number with its sign, or a sign alone. -/
  signed (x : Double) (negative : Bool) (bare whole : List Char) :
      Option (Complex × List Char) :=
    match scanDouble? whole with
    | some (y, r) => (afterUnit? r).map fun r => (⟨x, y⟩, r)
    | none => (afterUnit? bare).map fun r => (⟨x, unitOf negative⟩, r)

/-- A text read as a complex number, perhaps between brackets. -/
def readPlain? (s : List Char) : Option Complex :=
  match s with
  | '(' :: r =>
    match scan? (r.dropWhile isNumberSpace) with
    | some (z, rest) =>
      match rest.dropWhile isNumberSpace with
      | ')' :: t => if (t.dropWhile isNumberSpace).isEmpty then some z else none
      | _ => none
    | none => none
  | _ =>
    match scan? s with
    | some (z, rest) => if (rest.dropWhile isNumberSpace).isEmpty then some z else none
    | none => none

/-- A string read as a complex number. -/
def read (s : String) : Except ReadError Complex :=
  match dropUnderscores? (plainText s.toList) with
  | none => .error (.misplacedUnderscore s)
  | some t => match readPlain? t with
    | some z => .ok z
    | none => .error .notComplex

end Complex

end LayoutTree.Number
