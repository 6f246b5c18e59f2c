import LayoutTree.Number.Double

/-!
# Decimal digits of doubles

Two ways to give a positive double in decimal digits: the fewest digits that read back as the same
number (`shortest`), and a fixed count of significant digits, correctly rounded (`significant`).
Both answer with an integer of digits and the position of the decimal point. The work is exact: a
double is `m · 2 ^ e`, and the reals that round to it form an interval whose ends belong to it when
`m` is even. The main statement is `mem_interval_of_hit`: a decimal found by `shortest` lies in that
interval.
-/

namespace LayoutTree.Number

/-- Decimal digits `digits`, of which the first `point` stand before the decimal point; `point` may
be zero, negative or larger than the number of digits. -/
structure Digits where
  digits : Nat
  point : Int
  deriving DecidableEq, Repr

/-- The numerator and denominator of `m · 2 ^ e`. -/
def ratioOf (m : Nat) (e : Int) : Nat × Nat :=
  (m * Double.pow2 e, Double.pow2 (-e))

/-- The decimal order of a positive quotient: the `d` with `10 ^ (d - 1) ≤ num / den < 10 ^ d`. -/
def decimalOrder (num den : Nat) : Int :=
  let guess : Int := ((num.log2 : Int) - (den.log2 : Int)) * 30103 / 100000
  let fits (d : Int) : Bool :=
    den * pow10 (d - 1) ≤ num * pow10 (1 - d) && num * pow10 (-d) < den * pow10 d
  ([guess - 1, guess, guess + 1, guess + 2].find? fits).getD guess

/-- The reals that round to `m · 2 ^ e`, in units of `2 ^ (e - 2)`: lower end, upper end, and
whether the ends belong to them. -/
def roundingInterval (m : Nat) (e : Int) : Nat × Nat × Bool :=
  let below := if m = Double.pow2 52 ∧ Double.minExponent < e then 1 else 2
  (4 * m - below, 4 * m + 2, m % 2 == 0)

/-- Whether `c · 10 ^ p` rounds to `m · 2 ^ e`. -/
def inInterval (m : Nat) (e : Int) (c : Nat) (p : Int) : Bool :=
  let (lo, hi, closed) := roundingInterval m e
  let f := e - 2
  let left := c * pow10 p * Double.pow2 (-f)
  let scale := pow10 (-p) * Double.pow2 f
  if closed then lo * scale ≤ left && left ≤ hi * scale else lo * scale < left && left < hi * scale

/-- The two decimals with their last digit at `10 ^ p` on either side of `m · 2 ^ e`, the nearer one
first, and of two equally near ones the even one. -/
def neighbours (m : Nat) (e p : Int) : List Nat :=
  let (num, den) := ratioOf m e
  let n := num * pow10 (-p)
  let d := den * pow10 p
  let near := roundDiv n d
  [near, if near = n / d then n / d + 1 else n / d]

/-- The decimal with its last digit at `10 ^ p` that rounds to `m · 2 ^ e`; of two, the nearer one.
-/
def gridHit? (m : Nat) (e p : Int) : Option Nat :=
  (neighbours m e p).find? (inInterval m e · p)

/-- The first hit among the grids of `k`, `k + 1`, … digits, `fuel` grids in all. -/
def firstHit (m : Nat) (e order : Int) : Nat → Nat → Option (Nat × Int)
  | 0, _ => none
  | fuel + 1, k =>
    let p := order - k
    match gridHit? m e p with
    | some c => some (c, p)
    | none => firstHit m e order fuel (k + 1)

/-- A natural number without the zeros at its end, and how many they were. -/
def dropTrailingZeros : Nat → Nat → Nat × Nat
  | 0, n => (n, 0)
  | fuel + 1, n =>
    if n ≠ 0 ∧ n % 10 = 0 then
      let (r, k) := dropTrailingZeros fuel (n / 10)
      (r, k + 1)
    else (n, 0)

/-- The number of decimal digits of a natural number. -/
def digitCount (n : Nat) : Nat := (Nat.toDigits 10 n).length

/-- The digits of `c · 10 ^ p`, without zeros at the end. -/
def Digits.of (c : Nat) (p : Int) : Digits :=
  let (d, k) := dropTrailingZeros 20 c
  ⟨d, digitCount d + k + p⟩

/-- The fewest decimal digits that read back as the positive number `m · 2 ^ e`. Seventeen always
suffice. -/
def shortest (m : Nat) (e : Int) : Digits :=
  let (num, den) := ratioOf m e
  let order := decimalOrder num den
  match firstHit m e order 17 1 with
  | some (c, p) => Digits.of c p
  | none => Digits.of (roundDiv (num * pow10 (17 - order)) (den * pow10 (order - 17))) (order - 17)

/-- The positive number `m · 2 ^ e` rounded to `k` significant digits, a tie to the even digit.
Zeros at the end are dropped. -/
def significant (k : Nat) (m : Nat) (e : Int) : Digits :=
  let (num, den) := ratioOf m e
  let p := decimalOrder num den - k
  Digits.of (roundDiv (num * pow10 (-p)) (den * pow10 p)) p

/-- A decimal found on a grid lies in the rounding interval, so it reads back as the number. -/
theorem mem_interval_of_hit {m : Nat} {e p : Int} {c : Nat} (h : gridHit? m e p = some c) :
    inInterval m e c p = true :=
  List.find?_some (p := fun x => inInterval m e x p) h

end LayoutTree.Number
