/-!
# Double precision numbers

The numbers of layouts are binary floating point numbers of double precision. They are kept as exact
data, a signed mantissa and an exponent of two, so that reading, comparing and writing them is
arithmetic of natural numbers. `Double.ofRatio` rounds a quotient to the nearest double, a tie to
the even mantissa; `Double.compare?` compares exactly, and nothing compares with a NaN. The main
statements are `roundDiv_near` (rounding moves a quotient by at most one half), `compare?_self` (a
number that is not a NaN is equal to itself) and `le_iff_not_lt` (numbers that are not NaN are in a
linear order).
-/

namespace LayoutTree.Number

/-- The quotient rounded to the nearest natural number, a tie to the even one. -/
def roundDiv (num den : Nat) : Nat :=
  let q := num / den
  let r := num % den
  if 2 * r < den then q
  else if den < 2 * r then q + 1
  else if q % 2 = 0 then q else q + 1

/-- Rounding moves a quotient by at most one half. -/
theorem roundDiv_near {num den : Nat} (h : 0 < den) :
    2 * num ≤ 2 * den * roundDiv num den + den ∧ 2 * den * roundDiv num den ≤ 2 * num + den := by
  have hd := Nat.div_add_mod num den
  have hm := Nat.mod_lt num h
  have hq : 2 * den * (num / den) = 2 * (den * (num / den)) := by rw [Nat.mul_assoc]
  have hq1 : 2 * den * (num / den + 1) = 2 * (den * (num / den)) + 2 * den := by
    rw [Nat.mul_add, hq, Nat.mul_one]
  simp only [roundDiv]
  split
  · omega
  · split
    · omega
    · split <;> omega

/-- The power of ten with a natural exponent, one for negative exponents. -/
def pow10 (e : Int) : Nat := Nat.pow 10 e.toNat

/-- A number of double precision. -/
inductive Double
  /-- Not a number. -/
  | nan
  /-- An infinity with its sign. -/
  | infinite (negative : Bool)
  /-- The number `± mantissa · 2 ^ exponent`; zero has a sign too. -/
  | finite (negative : Bool) (mantissa : Nat) (exponent : Int)
  deriving DecidableEq, Repr, Inhabited

namespace Double

/-- The least exponent of a double. -/
def minExponent : Int := -1074

/-- The greatest exponent of a double. -/
def maxExponent : Int := 971

/-- The number of binary digits of a mantissa. -/
def precision : Nat := 53

/-- Zero with a sign. -/
def zero (negative : Bool) : Double :=
  .finite negative 0 minExponent

/-- Two to the power of an exponent that counts only when it is positive. -/
def pow2 (e : Int) : Nat := Nat.pow 2 e.toNat

/-- The double next to a mantissa and an exponent after rounding, with the carry into one digit
more and the overflow to infinity. -/
def pack (negative : Bool) (mantissa : Nat) (exponent : Int) : Double :=
  let (m, e) :=
    if mantissa = pow2 precision then (pow2 (precision - 1), exponent + 1)
    else (mantissa, exponent)
  if m = 0 then zero negative
  else if maxExponent < e then .infinite negative
  else .finite negative m e

/-- The exponent at which a positive quotient has a mantissa of full precision. -/
def exponentOf (num den : Nat) : Int :=
  let l : Int := (num.log2 : Int) - (den.log2 : Int)
  let e := if den * pow2 l ≤ num * pow2 (-l) then l - 52 else l - 53
  max e minExponent

/-- The double nearest to a quotient of natural numbers, a tie to the even mantissa. -/
def ofRatio (negative : Bool) (num den : Nat) : Double :=
  if num = 0 then zero negative
  else
    let e := exponentOf num den
    pack negative (roundDiv (num * pow2 (-e)) (den * pow2 e)) e

/-- The double nearest to `digits · 10 ^ exponent`. Numbers far outside of the range are not
computed: they are infinite or zero. -/
def ofDecimal (negative : Bool) (digits : Nat) (exponent : Int) : Double :=
  if digits = 0 then zero negative
  else
    let size : Int := (Nat.log2 digits : Int) * 30103 / 100000 + exponent
    if 310 < size then .infinite negative
    else if size < -345 then zero negative
    else ofRatio negative (digits * pow10 exponent) (pow10 (-exponent))

/-- The double nearest to an integer. -/
def ofInt (n : Int) : Double :=
  ofRatio (n < 0) n.natAbs 1

/-- The double nearest to a natural number. -/
def ofNat (n : Nat) : Double :=
  ofRatio false n 1

instance (n : Nat) : OfNat Double n where
  ofNat := ofNat n

/-! ## Comparison -/

/-- A finite number in units of `2 ^ e`, for an `e` at most its exponent. -/
def scaled (negative : Bool) (mantissa : Nat) (exponent e : Int) : Int :=
  let v : Int := (mantissa * pow2 (exponent - e) : Nat)
  if negative then -v else v

/-- How two numbers compare; nothing compares with a NaN. -/
def compare? : Double → Double → Option Ordering
  | .nan, _ => none
  | _, .nan => none
  | .infinite a, .infinite b => some (Ord.compare b a)
  | .infinite a, .finite .. => some (if a then .lt else .gt)
  | .finite .., .infinite b => some (if b then .gt else .lt)
  | .finite a m e, .finite b n f =>
    let g := min e f
    some (Ord.compare (scaled a m e g) (scaled b n f g))

/-- Whether a number is less than another. -/
def lt (x y : Double) : Bool :=
  compare? x y == some .lt

/-- Whether a number is at most another. -/
def le (x y : Double) : Bool :=
  compare? x y == some .lt || compare? x y == some .eq

/-- Whether two numbers are equal: zeros of both signs are, a NaN is not even to itself. -/
def eq (x y : Double) : Bool :=
  compare? x y == some .eq

/-- A number that is not a NaN is equal to itself. -/
theorem compare?_self {x : Double} (h : x ≠ .nan) : compare? x x = some .eq := by
  cases x with
  | nan => exact absurd rfl h
  | infinite a => cases a <;> rfl
  | finite a m e => simp [compare?]

/-- Nothing is below a NaN, and a NaN is below nothing. -/
theorem lt_nan (x : Double) : lt x .nan = false ∧ lt .nan x = false := by
  cases x <;> simp [lt, compare?]

/-- Two numbers compare one way round as the other. -/
theorem compare?_swap (x y : Double) : compare? y x = (compare? x y).map Ordering.swap := by
  cases x with
  | nan => cases y <;> rfl
  | infinite a =>
    cases y with
    | nan => rfl
    | infinite b => cases a <;> cases b <;> rfl
    | finite b n f => cases a <;> rfl
  | finite a m e =>
    cases y with
    | nan => rfl
    | infinite b => cases b <;> rfl
    | finite b n f =>
      simp only [compare?, Int.min_comm f e, Option.map_some]
      exact congrArg some (Std.OrientedOrd.eq_swap)

theorem compare?_eq_none_iff {x y : Double} : compare? x y = none ↔ x = .nan ∨ y = .nan := by
  cases x <;> cases y <;> simp [compare?]

/-- **Doubles are in a linear order**, NaN apart. -/
theorem le_iff_not_lt {x y : Double} (hx : x ≠ .nan) (hy : y ≠ .nan) :
    le x y = true ↔ lt y x = false := by
  have hsome : compare? x y ≠ none := fun h => (compare?_eq_none_iff.1 h).elim hx hy
  rw [le, lt, compare?_swap x y]
  cases hc : compare? x y with
  | none => exact absurd hc hsome
  | some o =>
    cases o with
    | lt => decide
    | eq => decide
    | gt => decide

/-- Nothing is at most a NaN, and a NaN is at most nothing. -/
theorem ne_nan_of_le {x y : Double} (h : le x y = true) : x ≠ .nan ∧ y ≠ .nan := by
  have hsome : compare? x y ≠ none := by
    intro hc
    simp [le, hc] at h
  exact ⟨fun hx => hsome (compare?_eq_none_iff.2 (.inl hx)),
    fun hy => hsome (compare?_eq_none_iff.2 (.inr hy))⟩
/-! ## Whole numbers -/

/-- The integer that a finite double is equal to, if it has no fraction. -/
def toInt? : Double → Option Int
  | .finite negative m e =>
    let den := pow2 (-e)
    if m % den = 0 then
      let n : Int := (m / den * pow2 e : Nat)
      some (if negative then -n else n)
    else none
  | _ => none

/-- Whether a number is finite. -/
def isFinite : Double → Bool
  | .finite .. => true
  | _ => false

/-- Whether a number carries a minus sign. -/
def isNegative : Double → Bool
  | .nan => false
  | .infinite negative => negative
  | .finite negative .. => negative

/-- The number with the opposite sign. -/
def neg : Double → Double
  | .nan => .nan
  | .infinite s => .infinite (!s)
  | .finite s m e => .finite (!s) m e

/-! ## Machine numbers -/

/-- The number that a machine double stands for. -/
def ofFloat (x : Float) : Double :=
  let bits : Nat := x.toBits.toNat
  let negative := bits / pow2 63 % 2 = 1
  let exponent : Nat := bits / pow2 52 % pow2 11
  let fraction : Nat := bits % pow2 52
  if exponent = 2047 then
    if fraction = 0 then .infinite negative else .nan
  else if exponent = 0 then .finite negative fraction minExponent
  else .finite negative (fraction + pow2 52) ((exponent : Int) - 1075)

/-- The machine double that stands for a number. -/
def toFloat : Double → Float
  | .nan => Float.ofBits 0x7FF8000000000000
  | .infinite negative => Float.ofBits (if negative then 0xFFF0000000000000 else 0x7FF0000000000000)
  | .finite negative m e =>
    let sign := if negative then pow2 63 else 0
    let body := if m < pow2 52 then m else (e + 1075).toNat * pow2 52 + (m - pow2 52)
    Float.ofBits (UInt64.ofNat (sign + body))

end Double

end LayoutTree.Number
