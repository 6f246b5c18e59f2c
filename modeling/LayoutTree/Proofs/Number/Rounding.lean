import LayoutTree.Number.Double
import Mathlib.Algebra.Order.Field.Power
import Mathlib.Tactic.FieldSimp
import Mathlib.Tactic.Linarith
import Mathlib.Tactic.Positivity
import Mathlib.Tactic.Ring

/-!
# Quotients below one

The double nearest to a quotient of natural numbers below one has an exponent of at most `-53`
(`exponentOf_le`), so rounding moves the quotient by at most half a unit of that place
(`abs_exact_ofRatio_sub_le`). Zero and one are doubles (`exact_ofRatio_zero`, `exact_ofRatio_self`).
So the doubles nearest to evenly spread quotients are in the order of these while their distance
is more than a unit (`exact_ofRatio_lt`).
-/

namespace LayoutTree.Number

namespace Double

/-- The value of a finite number. -/
def exact : Double → ℚ
  | .finite negative m e => (if negative then -1 else 1) * (m * 2 ^ e)
  | _ => 0

theorem exact_zero (negative : Bool) : (zero negative).exact = 0 := by
  rw [zero, exact, Nat.cast_zero, zero_mul, mul_zero]

/-- Packing keeps the value, unless it is out of range. -/
theorem exact_pack {m : Nat} {e : Int} (he : e < maxExponent) :
    (pack false m e).exact = m * 2 ^ e := by
  have htwo : (2 : ℚ) ≠ 0 := two_ne_zero
  rw [pack]
  by_cases hcarry : m = pow2 precision
  · have hm : m = 2 ^ 53 := hcarry
    have hhalf : pow2 (precision - 1) = 2 ^ 52 := rfl
    rw [if_pos hcarry]
    dsimp only
    rw [hhalf, if_neg (by decide), if_neg (by omega), exact, hm, if_neg Bool.false_ne_true, one_mul,
      zpow_add₀ htwo]
    push_cast
    ring
  · rw [if_neg hcarry]
    dsimp only
    split
    · next hm => rw [hm, exact_zero, Nat.cast_zero, zero_mul]
    · rw [if_neg (by omega), exact, if_neg Bool.false_ne_true, one_mul]

theorem pow2_of_nonpos {e : Int} (h : e ≤ 0) : pow2 e = 1 := by
  rw [pow2, Int.toNat_eq_zero.2 h, Nat.pow_eq, pow_zero]

/-- The exponent of a quotient below one. -/
theorem exponentOf_le {num den : Nat} (h : num < den) : exponentOf num den ≤ -53 := by
  have hlog : num.log2 ≤ den.log2 := by
    rcases Nat.eq_zero_or_pos num with rfl | hnum
    · exact Nat.zero_le _
    · exact (Nat.le_log2 (by omega)).2 ((Nat.log2_self_le (by omega)).trans h.le)
  rw [exponentOf]
  refine max_le ?_ (by decide)
  split
  · next hfull =>
    -- With equal logarithms the quotient would be at least one.
    have hne : num.log2 ≠ den.log2 := by
      intro heq
      rw [heq, sub_self, neg_zero, pow2_of_nonpos le_rfl] at hfull
      omega
    omega
  · omega

/-- A quotient rounded to a multiple of a unit is at most one half of it away. -/
theorem abs_roundDiv_sub_le {num den : Nat} (hden : 0 < den) (k : Nat) :
    |(roundDiv (num * 2 ^ k) den : ℚ) * (2 ^ k)⁻¹ - num / den| ≤ (2 ^ (k + 1))⁻¹ := by
  obtain ⟨hnear, hnear'⟩ := @roundDiv_near (num * 2 ^ k) den hden
  have hlow := (Nat.cast_le (α := ℚ)).2 hnear
  have hhigh := (Nat.cast_le (α := ℚ)).2 hnear'
  push_cast at hlow hhigh
  generalize (roundDiv (num * 2 ^ k) den : ℚ) = r at hlow hhigh ⊢
  have hd : (0 : ℚ) < den := Nat.cast_pos.2 hden
  have hscale : (0 : ℚ) < 2 * 2 ^ k * den := by positivity
  have hdiff : r * (2 ^ k)⁻¹ - num / den =
      (2 * den * r - 2 * (num * 2 ^ k)) / (2 * 2 ^ k * den) := by
    field_simp
  have hunit : (2 ^ (k + 1))⁻¹ * (2 * 2 ^ k * den) = (den : ℚ) := by
    rw [pow_succ]
    field_simp
  rw [hdiff, abs_div, abs_of_pos hscale, div_le_iff₀ hscale, hunit, abs_le]
  constructor <;> linarith

theorem exact_ofRatio_zero (den : Nat) : (ofRatio false 0 den).exact = 0 := by
  rw [ofRatio, if_pos rfl, exact_zero]

/-- One is a double. -/
theorem exact_ofRatio_self {n : Nat} (hn : 0 < n) : (ofRatio false n n).exact = 1 := by
  have hexponent : exponentOf n n = -52 := by
    rw [exponentOf, sub_self, neg_zero, if_pos le_rfl]
    decide
  have hround : roundDiv (n * 2 ^ 52) n = 2 ^ 52 := by
    rw [roundDiv, Nat.mul_mod_right, Nat.mul_div_cancel_left _ hn, mul_zero, if_pos hn]
  have hunit : pow2 52 = 2 ^ 52 := rfl
  rw [ofRatio, if_neg hn.ne']
  dsimp only
  rw [hexponent, neg_neg, hunit, pow2_of_nonpos (by decide), mul_one, hround,
    exact_pack (by decide)]
  norm_num

/-- **Rounding a quotient up to one** moves it by half a unit of the place `-53` at most. -/
theorem abs_exact_ofRatio_sub_le {num den : Nat} (hden : 0 < den) (h : num ≤ den) :
    |(ofRatio false num den).exact - num / den| ≤ (2 ^ 54)⁻¹ := by
  have hpos : (0 : ℚ) ≤ (2 ^ 54)⁻¹ := by positivity
  rcases Nat.eq_zero_or_pos num with rfl | hnum
  · rw [exact_ofRatio_zero, Nat.cast_zero, zero_div, sub_zero, abs_zero]
    exact hpos
  rcases h.eq_or_lt with rfl | hlt
  · rw [exact_ofRatio_self hden, div_self (Nat.cast_ne_zero.2 hden.ne'), sub_self, abs_zero]
    exact hpos
  · have hexponent := exponentOf_le hlt
    obtain ⟨k, hk⟩ := Int.eq_ofNat_of_zero_le (show 0 ≤ -exponentOf num den by omega)
    have hunit : pow2 (-exponentOf num den) = 2 ^ k := by
      rw [hk]
      rfl
    have hvalue : (2 : ℚ) ^ exponentOf num den = (2 ^ k)⁻¹ := by
      rw [← neg_neg (exponentOf num den), hk, zpow_neg]
      rfl
    rw [ofRatio, if_neg hnum.ne']
    dsimp only
    rw [hunit, pow2_of_nonpos (by omega), mul_one, exact_pack (hexponent.trans_lt (by decide)),
      hvalue]
    refine (abs_roundDiv_sub_le hden k).trans (inv_anti₀ (by positivity) ?_)
    exact pow_le_pow_right₀ one_le_two (by omega)

/-- Quotients of fewer than `2 ^ 53` parts keep their order when they are rounded. -/
theorem exact_ofRatio_lt {i j n : Nat} (hij : i < j) (hj : j ≤ n) (hn : n < 2 ^ 53) :
    (ofRatio false i n).exact < (ofRatio false j n).exact := by
  have hpos : 0 < n := by omega
  have hi := (abs_le.1 (abs_exact_ofRatio_sub_le hpos (hij.le.trans hj))).2
  have hj := (abs_le.1 (abs_exact_ofRatio_sub_le hpos hj)).1
  have hn' : (0 : ℚ) < n := Nat.cast_pos.2 hpos
  have hpart : (i : ℚ) / n + 1 / n ≤ j / n := by
    rw [← add_div]
    exact div_le_div_of_nonneg_right (by exact_mod_cast hij) hn'.le
  have hunit : (2 : ℚ) * (2 ^ 54)⁻¹ < 1 / n := by
    have hsmall : (n : ℚ) < 2 ^ 53 := by exact_mod_cast hn
    have htwo : (2 : ℚ) * (2 ^ 54)⁻¹ = 1 / 2 ^ 53 := by norm_num
    rw [htwo]
    exact one_div_lt_one_div_of_lt hn' hsmall
  linarith

end Double

end LayoutTree.Number
