import LayoutTree.Number.Shortest

/-!
# Written doubles

The two written forms of a double. `Double.text` writes the fewest digits that read back, with a
point and at least one digit after it unless an exponent follows; `Double.brief` writes at most six
significant digits and no point without need. Both change to an exponent for very large and very
small numbers; the limits stand in a `DecimalStyle`.
-/

namespace LayoutTree.Number

/-- Where a style writes numbers with an exponent, and whether whole numbers keep a point. -/
structure DecimalStyle where
  /-- The least position of the decimal point for which a number is written without an exponent. -/
  leastPoint : Int
  /-- The greatest position of the decimal point for which a number is written without one. -/
  greatestPoint : Int
  /-- Whether a number without a fraction ends in `.0`. -/
  pointed : Bool

/-- The exact form: without an exponent from `0.0001` up to sixteen digits before the point. -/
def DecimalStyle.exact : DecimalStyle := ⟨-3, 16, true⟩

/-- The brief form: without an exponent from `0.0001` up to six digits before the point. -/
def DecimalStyle.brief : DecimalStyle := ⟨-3, 6, false⟩

/-- The digits of a natural number. -/
def decimalChars (n : Nat) : List Char := Nat.toDigits 10 n

/-- An exponent with its sign and at least two digits. -/
def exponentChars (e : Int) : List Char :=
  let ds := decimalChars e.natAbs
  'e' :: (if e < 0 then '-' else '+') :: (List.replicate (2 - ds.length) '0' ++ ds)

/-- Digits written in a style. -/
def DecimalStyle.write (style : DecimalStyle) (d : Digits) : List Char :=
  let ds := decimalChars d.digits
  let n : Int := ds.length
  if d.point < style.leastPoint ∨ style.greatestPoint < d.point then
    let fraction := ds.drop 1
    ds.take 1 ++ (if fraction.isEmpty then [] else '.' :: fraction) ++ exponentChars (d.point - 1)
  else if d.point ≤ 0 then '0' :: '.' :: List.replicate (-d.point).toNat '0' ++ ds
  else if n ≤ d.point then
    ds ++ List.replicate (d.point - n).toNat '0' ++ (if style.pointed then ['.', '0'] else [])
  else ds.take d.point.toNat ++ '.' :: ds.drop d.point.toNat

namespace Double

/-- A double written in a style, its digits chosen by `digits`. -/
def write (style : DecimalStyle) (digits : Nat → Int → Digits) : Double → List Char
  | .nan => "nan".toList
  | .infinite negative => if negative then "-inf".toList else "inf".toList
  | .finite negative m e =>
    (if negative then ['-'] else []) ++
      if m = 0 then (if style.pointed then "0.0".toList else ['0'])
      else style.write (digits m e)

/-- The exact text of a double: the fewest digits that read back. -/
def text (x : Double) : String :=
  String.ofList (write .exact shortest x)

/-- The brief text of a double: at most six significant digits. -/
def brief (x : Double) : String :=
  String.ofList (write .brief (significant 6) x)

end Double

end LayoutTree.Number
