import KeysetPaging.Proofs.Decimal.Order

/-!
# Whole decimal numbers

A decimal number is whole when the rational it denotes is an integer, and the
number with its fraction cut off is then that integer.  Neither the test nor the
cut forms a power of ten that is longer than the coefficient and the answer
together: a coefficient shorter than its scale is a fraction, and a number with
more than nineteen places before the point is no signed 64-bit integer.
-/

namespace KeysetPaging

namespace Decimal

theorem toRat_eq_intCast_iff {number : Decimal} {n : Int} :
    number.toRat = n ↔
      number.coefficient * 10 ^ (-number.scale.toInt).toNat =
        n * 10 ^ number.scale.toInt.toNat := by
  have shift : (number.scale.toInt.toNat : ℤ) =
      (-number.scale.toInt).toNat + number.scale.toInt := by
    omega
  have unit : (10 : ℚ) ^ number.scale.toInt.toNat ≠ 0 := by positivity
  have aligned : number.toRat * 10 ^ number.scale.toInt.toNat =
      ((number.coefficient * 10 ^ (-number.scale.toInt).toNat : ℤ) : ℚ) := by
    rw [toRat, scaled, mul_assoc, ← zpow_natCast, ← zpow_add₀ (by norm_num),
      shift]
    have exponent : -number.scale.toInt +
        ((-number.scale.toInt).toNat + number.scale.toInt) =
          ((-number.scale.toInt).toNat : ℤ) := by
      ring
    rw [exponent, zpow_natCast]
    push_cast
    rfl
  rw [← mul_left_inj' unit, aligned]
  norm_cast

theorem natAbs_lt_of_digitCount_lt {coefficient : Int} {places : Nat}
    (shorter : digitCount coefficient.natAbs < places) :
    coefficient.natAbs < 10 ^ places :=
  (lt_ten_pow_digitCount _).trans
    (Nat.pow_lt_pow_right (by decide) shorter)

theorem eq_zero_of_natAbs_lt {coefficient n : Int} {places : Nat}
    (small : coefficient.natAbs < 10 ^ places)
    (whole : coefficient = n * 10 ^ places) : coefficient = 0 := by
  apply Int.eq_zero_of_abs_lt_dvd (m := 10 ^ places)
  · exact Dvd.intro_left n whole.symm
  · rw [Int.abs_eq_natAbs]
    exact_mod_cast small

theorem isInteger_iff {number : Decimal} :
    number.isInteger = true ↔ ∃ n : Int, number.toRat = n := by
  simp only [toRat_eq_intCast_iff]
  unfold isInteger
  by_cases unplaced : number.scale.toInt ≤ 0
  · rw [if_pos unplaced, Int.toNat_of_nonpos unplaced]
    simp
  · have places : (-number.scale.toInt).toNat = 0 := by omega
    have scale : (number.scale.toInt.toNat : ℤ) = number.scale.toInt := by omega
    rw [if_neg unplaced, places, pow_zero]
    simp only [mul_one]
    by_cases shorter : (digitCount number.coefficient.natAbs : ℤ) <
        number.scale.toInt
    · rw [if_pos shorter, beq_iff_eq]
      constructor
      · rintro zero
        exact ⟨0, by rw [zero, zero_mul]⟩
      · rintro ⟨n, whole⟩
        exact eq_zero_of_natAbs_lt
          (natAbs_lt_of_digitCount_lt (by omega)) whole
    · have power : ((Nat.pow 10 number.scale.toInt.toNat : ℕ) : ℤ) =
          10 ^ number.scale.toInt.toNat := Nat.cast_pow 10 _
      rw [if_neg shorter, beq_iff_eq, ← Nat.dvd_iff_mod_eq_zero,
        ← Int.natCast_dvd, power]
      constructor
      · rintro ⟨n, whole⟩
        exact ⟨n, whole.trans (mul_comm _ _)⟩
      · rintro ⟨n, whole⟩
        exact ⟨n, whole.trans (mul_comm _ _)⟩

theorem int64OfInt?_eq_none_of_large {n : Int} (large : 10 ^ 19 ≤ n.natAbs) :
    Text.int64OfInt? n = none := by
  have upper : Int64.maxValue.toInt = 9223372036854775807 := rfl
  have lower : Int64.minValue.toInt = -9223372036854775808 := rfl
  unfold Text.int64OfInt?
  split_ifs
  · omega
  · rfl
  · rfl

theorem truncate?_of_toRat_eq {number : Decimal} {n : Int}
    (whole : number.toRat = n) : number.truncate? = Text.int64OfInt? n := by
  rw [toRat_eq_intCast_iff] at whole
  unfold truncate?
  by_cases zero : number.coefficient = 0
  · have vanishes : n = 0 := by
      rw [zero, zero_mul] at whole
      exact (mul_eq_zero.mp whole.symm).resolve_right (by positivity)
    rw [if_pos zero, vanishes]
    rfl
  · rw [if_neg zero]
    by_cases unplaced : number.scale.toInt ≤ 0
    · have value : number.coefficient * 10 ^ (-number.scale.toInt).toNat = n := by
        rw [whole, Int.toNat_of_nonpos unplaced, pow_zero, mul_one]
      rw [if_pos unplaced]
      split
      · rename_i long
        refine (int64OfInt?_eq_none_of_large ?_).symm
        have positive : 0 < number.coefficient.natAbs :=
          Int.natAbs_pos.mpr zero
        have places : 19 ≤ digitCount number.coefficient.natAbs - 1 +
            (-number.scale.toInt).toNat := by
          omega
        calc
          10 ^ 19 ≤ 10 ^ (digitCount number.coefficient.natAbs - 1 +
              (-number.scale.toInt).toNat) :=
            Nat.pow_le_pow_right (by decide) places
          _ = 10 ^ (digitCount number.coefficient.natAbs - 1) *
              10 ^ (-number.scale.toInt).toNat := Nat.pow_add _ _ _
          _ ≤ number.coefficient.natAbs * 10 ^ (-number.scale.toInt).toNat :=
            Nat.mul_le_mul_right _ (ten_pow_le_of_pos positive)
          _ = n.natAbs := by
            rw [← value, Int.natAbs_mul, Int.natAbs_pow]
            rfl
      · rw [← value]
        rfl
    · have places : (-number.scale.toInt).toNat = 0 := by omega
      rw [places, pow_zero, mul_one] at whole
      rw [if_neg unplaced]
      split
      · rename_i shorter
        refine absurd (eq_zero_of_natAbs_lt ?_ whole) zero
        exact natAbs_lt_of_digitCount_lt (by omega)
      · have power : (10 : ℤ) ^ number.scale.toInt.toNat ≠ 0 :=
          pow_ne_zero _ (by decide)
        rw [whole]
        exact congrArg Text.int64OfInt? (Int.mul_tdiv_cancel n power)

end Decimal
end KeysetPaging
