import KeysetPaging.Decimal.Basic
import Mathlib.Algebra.Order.Field.Rat
import Mathlib.Data.Rat.Cast.Order
import Mathlib.Tactic.Linarith
import Mathlib.Tactic.Positivity
import Mathlib.Tactic.Ring

/-!
# The order of decimal numbers

A decimal number denotes a rational, and the order on numbers is the order on
the rationals they denote.  The comparison never forms those rationals: it
compares the places of the leading digits first, which settles it whenever the
two places differ, and aligns the coefficients only when they agree.

That the comparison is transitive, and that it does not see trailing zeros,
both follow from the rationals.
-/

namespace KeysetPaging

namespace Decimal

/-- The rational that a coefficient and a scale denote. -/
def scaled (coefficient : Int) (scale : Int64) : ℚ :=
  coefficient * (10 : ℚ) ^ (-scale.toInt)

def toRat (number : Decimal) : ℚ :=
  scaled number.coefficient number.scale

theorem lt_ten_pow_digitCount (n : Nat) : n < 10 ^ digitCount n :=
  (Nat.length_toDigits_le_iff (by decide) Nat.length_toDigits_pos).mp le_rfl

theorem ten_pow_le_of_pos {n : Nat} (positive : 0 < n) :
    10 ^ (digitCount n - 1) ≤ n := by
  by_cases single : digitCount n - 1 = 0
  · rw [single, Nat.pow_zero]
    exact positive
  · by_contra smaller
    have fewer : digitCount n ≤ digitCount n - 1 :=
      (Nat.length_toDigits_le_iff (by decide) (Nat.pos_of_ne_zero single)).mpr
        (Nat.lt_of_not_le smaller)
    omega

/-- The rational that a magnitude and a scale denote. -/
def magnitude (n : Nat) (scale : Int) : ℚ :=
  n * (10 : ℚ) ^ (-scale)

theorem scaled_natCast (n : Nat) (scale : Int64) :
    scaled n scale = magnitude n scale.toInt := by
  rw [scaled, magnitude, Int.cast_natCast]

theorem magnitude_lt_ten_zpow (n : Nat) (scale : Int) :
    magnitude n scale < (10 : ℚ) ^ (digitCount n - scale) := by
  have bound : (n : ℚ) < (10 : ℚ) ^ (digitCount n : ℤ) := by
    rw [zpow_natCast]
    exact_mod_cast lt_ten_pow_digitCount n
  have shift : (0 : ℚ) < 10 ^ (-scale) := zpow_pos (by norm_num) _
  calc
    magnitude n scale < 10 ^ (digitCount n : ℤ) * 10 ^ (-scale) :=
      mul_lt_mul_of_pos_right bound shift
    _ = 10 ^ (digitCount n - scale) := by
      rw [← zpow_add₀ (by norm_num), sub_eq_add_neg]

theorem ten_zpow_le_magnitude {n : Nat} (positive : 0 < n) (scale : Int) :
    (10 : ℚ) ^ (digitCount n - scale - 1) ≤ magnitude n scale := by
  have nonempty : 1 ≤ digitCount n := Nat.length_toDigits_pos
  have bound : (10 : ℚ) ^ ((digitCount n : ℤ) - 1) ≤ n := by
    have natural : ((digitCount n : ℤ) - 1) = ((digitCount n - 1 : ℕ) : ℤ) := by
      omega
    rw [natural, zpow_natCast]
    exact_mod_cast ten_pow_le_of_pos positive
  have shift : (0 : ℚ) ≤ 10 ^ (-scale) := zpow_nonneg (by norm_num) _
  calc
    (10 : ℚ) ^ (digitCount n - scale - 1)
        = 10 ^ ((digitCount n : ℤ) - 1) * 10 ^ (-scale) := by
      rw [← zpow_add₀ (by norm_num)]
      congr 1
      ring
    _ ≤ magnitude n scale := mul_le_mul_of_nonneg_right bound shift

theorem scaled_lt_ten_zpow_leadingPlace (n : Nat) (scale : Int64) :
    scaled n scale < (10 : ℚ) ^ leadingPlace n scale := by
  rw [scaled_natCast, leadingPlace]
  exact magnitude_lt_ten_zpow n scale.toInt

theorem ten_zpow_le_scaled {n : Nat} (positive : 0 < n) (scale : Int64) :
    (10 : ℚ) ^ (leadingPlace n scale - 1) ≤ scaled n scale := by
  rw [scaled_natCast, leadingPlace]
  exact ten_zpow_le_magnitude positive scale.toInt

theorem scaled_lt_of_leadingPlace_lt {left right : Nat}
    {leftScale rightScale : Int64} (positive : 0 < right)
    (below : leadingPlace left leftScale < leadingPlace right rightScale) :
    scaled left leftScale < scaled right rightScale := by
  calc
    scaled left leftScale < (10 : ℚ) ^ leadingPlace left leftScale :=
      scaled_lt_ten_zpow_leadingPlace left leftScale
    _ ≤ 10 ^ (leadingPlace right rightScale - 1) :=
      zpow_le_zpow_right₀ (by norm_num) (by omega)
    _ ≤ scaled right rightScale := ten_zpow_le_scaled positive rightScale

theorem cast_mul_ten_pow (n : Nat) (scale : Int64) (shift : Nat) :
    ((n * 10 ^ shift : ℕ) : ℚ) =
      scaled n scale * 10 ^ (scale.toInt + shift) := by
  rw [scaled, mul_assoc, ← zpow_add₀ (by norm_num)]
  have exponent : -scale.toInt + (scale.toInt + shift) = (shift : ℤ) := by ring
  rw [exponent, zpow_natCast]
  push_cast
  rfl

/-- Coefficients aligned to the larger scale compare as the numbers do. -/
theorem compare_aligned (left right : Nat) (leftScale rightScale : Int64) :
    Ord.compare
        (left * 10 ^ (rightScale.toInt - leftScale.toInt).toNat)
        (right * 10 ^ (-(rightScale.toInt - leftScale.toInt)).toNat) =
      Ord.compare (scaled left leftScale) (scaled right rightScale) := by
  have common :
      leftScale.toInt + (rightScale.toInt - leftScale.toInt).toNat =
        rightScale.toInt +
          (-(rightScale.toInt - leftScale.toInt)).toNat := by
    omega
  have unit : (0 : ℚ) < 10 ^ (rightScale.toInt +
      (-(rightScale.toInt - leftScale.toInt)).toNat) :=
    zpow_pos (by norm_num) _
  rw [← cmp_eq_compare, ← cmp_eq_compare,
    ← (Nat.strictMono_cast (α := ℚ)).cmp_map_eq,
    cast_mul_ten_pow left leftScale, cast_mul_ten_pow right rightScale,
    common, cmp_mul_pos_right unit]

theorem compareMagnitude_eq {left right : Nat} (leftPositive : 0 < left)
    (rightPositive : 0 < right) (leftScale rightScale : Int64) :
    compareMagnitude left leftScale right rightScale =
      Ord.compare (scaled left leftScale) (scaled right rightScale) := by
  unfold compareMagnitude
  rcases lt_trichotomy (leadingPlace left leftScale)
      (leadingPlace right rightScale) with below | same | above
  · rw [compare_lt_iff_lt.mpr below, Ordering.lt_then, eq_comm,
      compare_lt_iff_lt]
    exact scaled_lt_of_leadingPlace_lt rightPositive below
  · rw [same, compare_eq_iff_eq.mpr rfl, Ordering.eq_then]
    exact compare_aligned left right leftScale rightScale
  · rw [compare_gt_iff_gt.mpr above, Ordering.gt_then, eq_comm,
      compare_gt_iff_gt]
    exact scaled_lt_of_leadingPlace_lt leftPositive above

theorem scaled_pos {coefficient : Int} (positive : 0 < coefficient)
    (scale : Int64) : 0 < scaled coefficient scale :=
  mul_pos (by exact_mod_cast positive) (zpow_pos (by norm_num) _)

theorem scaled_neg (coefficient : Int) (scale : Int64) :
    scaled (-coefficient) scale = -scaled coefficient scale := by
  simp [scaled]

theorem scaled_zero (scale : Int64) : scaled 0 scale = 0 := by
  simp [scaled]

theorem toRat_of_pos {number : Decimal} (positive : 0 < number.coefficient) :
    number.toRat = scaled number.coefficient.natAbs number.scale := by
  rw [toRat, Int.natAbs_of_nonneg positive.le]

theorem toRat_of_neg {number : Decimal} (negative : number.coefficient < 0) :
    number.toRat = -scaled number.coefficient.natAbs number.scale := by
  rw [toRat, Int.ofNat_natAbs_of_nonpos negative.le, scaled_neg, neg_neg]

theorem toRat_pos {number : Decimal} (positive : 0 < number.coefficient) :
    0 < number.toRat :=
  scaled_pos positive number.scale

theorem toRat_neg {number : Decimal} (negative : number.coefficient < 0) :
    number.toRat < 0 := by
  have opposite := scaled_pos (neg_pos.mpr negative) number.scale
  rw [scaled_neg] at opposite
  exact neg_pos.mp opposite

theorem toRat_of_zero {number : Decimal} (zero : number.coefficient = 0) :
    number.toRat = 0 := by
  rw [toRat, zero, scaled_zero]

theorem compare_neg_neg (left right : ℚ) :
    Ord.compare (-left) (-right) = Ord.compare right left := by
  have antitone : StrictAnti (fun value : ℚ => -value) := fun _ _ => neg_lt_neg
  rw [← cmp_eq_compare, ← cmp_eq_compare]
  exact antitone.cmp_map_eq left right

/-- The order on numbers is the order on the rationals they denote. -/
theorem compare_eq_compare_toRat (left right : Decimal) :
    Ord.compare left right = Ord.compare left.toRat right.toRat := by
  change Decimal.compare left right = _
  unfold Decimal.compare
  rcases lt_trichotomy left.coefficient 0 with leftNegative | leftZero | leftPositive
  · have leftSign := Int.sign_eq_neg_one_of_neg leftNegative
    have notPositive : ¬ 0 < left.coefficient := by omega
    have notZero : left.coefficient ≠ 0 := by omega
    rcases lt_trichotomy right.coefficient 0 with
      rightNegative | rightZero | rightPositive
    · rw [leftSign, Int.sign_eq_neg_one_of_neg rightNegative,
        compare_eq_iff_eq.mpr rfl, Ordering.eq_then, if_neg notZero,
        if_neg notPositive, toRat_of_neg leftNegative,
        toRat_of_neg rightNegative, compare_neg_neg]
      exact compareMagnitude_eq (by omega) (by omega) right.scale left.scale
    · rw [leftSign, rightZero, Int.sign_zero, toRat_of_zero rightZero,
        compare_lt_iff_lt.mpr (toRat_neg leftNegative)]
      rfl
    · rw [leftSign, Int.sign_eq_one_of_pos rightPositive,
        compare_lt_iff_lt.mpr
          ((toRat_neg leftNegative).trans (toRat_pos rightPositive))]
      rfl
  · rw [leftZero, Int.sign_zero, toRat_of_zero leftZero, if_pos rfl]
    rcases lt_trichotomy right.coefficient 0 with
      rightNegative | rightZero | rightPositive
    · rw [Int.sign_eq_neg_one_of_neg rightNegative,
        compare_gt_iff_gt.mpr (toRat_neg rightNegative)]
      rfl
    · rw [rightZero, toRat_of_zero rightZero, compare_eq_iff_eq.mpr rfl]
      rfl
    · rw [Int.sign_eq_one_of_pos rightPositive,
        compare_lt_iff_lt.mpr (toRat_pos rightPositive)]
      rfl
  · have leftSign := Int.sign_eq_one_of_pos leftPositive
    have notZero : left.coefficient ≠ 0 := by omega
    rcases lt_trichotomy right.coefficient 0 with
      rightNegative | rightZero | rightPositive
    · rw [leftSign, Int.sign_eq_neg_one_of_neg rightNegative,
        compare_gt_iff_gt.mpr
          ((toRat_neg rightNegative).trans (toRat_pos leftPositive))]
      rfl
    · rw [leftSign, rightZero, Int.sign_zero, toRat_of_zero rightZero,
        compare_gt_iff_gt.mpr (toRat_pos leftPositive)]
      rfl
    · rw [leftSign, Int.sign_eq_one_of_pos rightPositive,
        compare_eq_iff_eq.mpr rfl, Ordering.eq_then, if_neg notZero,
        if_pos leftPositive, toRat_of_pos leftPositive,
        toRat_of_pos rightPositive]
      exact compareMagnitude_eq (by omega) (by omega) left.scale right.scale

instance : Std.TransOrd Decimal where
  eq_swap {left right} := by
    rw [compare_eq_compare_toRat, compare_eq_compare_toRat right]
    exact Std.OrientedOrd.eq_swap
  isLE_trans {left middle right} := by
    rw [compare_eq_compare_toRat left middle,
      compare_eq_compare_toRat middle right, compare_eq_compare_toRat left right]
    exact Std.TransOrd.isLE_trans

theorem compare_eq_eq_iff {left right : Decimal} :
    Ord.compare left right = .eq ↔ left.toRat = right.toRat := by
  rw [compare_eq_compare_toRat, compare_eq_iff_eq]

@[simp] theorem toRat_ofInt64 (n : Int64) : (ofInt64 n).toRat = n.toInt := by
  simp [toRat, ofInt64, scaled]

theorem compare_ofInt64 (left right : Int64) :
    Ord.compare (ofInt64 left) (ofInt64 right) = Ord.compare left right := by
  rw [compare_eq_compare_toRat, toRat_ofInt64, toRat_ofInt64, ← cmp_eq_compare,
    (Int.cast_strictMono (R := ℚ)).cmp_map_eq, cmp_eq_compare]
  rcases lt_trichotomy left.toInt right.toInt with below | same | above
  · rw [compare_lt_iff_lt.mpr below, eq_comm, Std.compare_eq_lt]
    exact Int64.lt_iff_toInt_lt.mpr below
  · rw [Int64.toInt_inj.mp same, compare_eq_iff_eq.mpr rfl,
      Std.ReflOrd.compare_self]
  · rw [compare_gt_iff_gt.mpr above, eq_comm, Std.compare_eq_gt]
    exact Int64.lt_iff_toInt_lt.mpr above

end Decimal

end KeysetPaging
