import KeysetPaging.Decimal.Fixed96
import KeysetPaging.Proofs.Decimal.Order
import Mathlib.Tactic.FieldSimp
import Mathlib.Tactic.NormNum

/-!
# Rounding to 96 bits

A number that is bound to a decimal column is rounded to a fixed-point number,
in one step or, when it is very small, in two.  Neither step gives a decimal
away: the outcome has as many decimals as the limit of places allows, or one
more decimal would not fit in 96 bits.  That is why a number which has a
fixed-point form is not rounded at all, however it is written: where the limit of
places cuts in, its decimals end before, and where the 96 bits do, they too end
before.

The numbers that are refused are those that leave 96 bits when they are rounded
to a whole number, and those too small for any decimal within the limit.
-/

namespace KeysetPaging.Decimal

/-- The number is a coefficient of 96 bits at a scale within the limit. -/
structure IsFixed96 (number : Decimal) : Prop where
  scale_nonneg : 0 ≤ number.scale.toInt
  scale_le : number.scale.toInt ≤ maxPlaces
  coefficient_le : number.coefficient.natAbs ≤ maxCoefficient

/-- The least number that leaves 96 bits when it is rounded to a whole one. -/
def overflowBound : ℚ :=
  2 ^ 96 - 1 / 2

theorem maxCoefficient_lt_overflowBound :
    (maxCoefficient : ℚ) < overflowBound := by
  norm_num [maxCoefficient, overflowBound]

theorem overflowBound_lt : overflowBound < (maxCoefficient + 1 : ℕ) := by
  norm_num [maxCoefficient, overflowBound]

/-- A coefficient at a number of places stands for a magnitude, up to the last
place, and gives no place away. -/
structure Rounds (exact : ℚ) (coefficient places : Nat) : Prop where
  coefficient_le : coefficient ≤ maxCoefficient
  places_le : places ≤ maxPlaces
  near : |(coefficient : ℚ) - exact * 10 ^ places| ≤ 3 / 5
  full : (coefficient : ℚ) = exact * 10 ^ places ∨ places = maxPlaces ∨
    overflowBound ≤ exact * 10 ^ (places + 1)

theorem natCast_inj_of_near {left right : Nat}
    (near : |(left : ℚ) - right| ≤ 3 / 5) : left = right := by
  have apart : |(left : ℤ) - right| < 1 := by
    have close : |(left : ℚ) - right| < 1 := lt_of_le_of_lt near (by norm_num)
    exact_mod_cast close
  have same := Int.abs_lt_one_iff.mp apart
  omega

theorem Rounds.eq_of_form {exact : ℚ} {coefficient places : Nat}
    (rounds : Rounds exact coefficient places) {form formPlaces : Nat}
    (fits : form ≤ maxCoefficient) (limited : formPlaces ≤ maxPlaces)
    (isForm : (form : ℚ) = exact * 10 ^ formPlaces) :
    (coefficient : ℚ) = exact * 10 ^ places := by
  have shorter (enough : formPlaces ≤ places) :
      (coefficient : ℚ) = exact * 10 ^ places := by
    have shifted : exact * 10 ^ places =
        (form * 10 ^ (places - formPlaces) : ℕ) := by
      push_cast
      rw [isForm, mul_assoc, ← pow_add, Nat.add_sub_cancel' enough]
    have near := rounds.near
    rw [shifted] at near ⊢
    rw [natCast_inj_of_near near]
  rcases rounds.full with same | allPlaces | filled
  · exact same
  · exact shorter (allPlaces ▸ limited)
  · rcases Nat.lt_or_ge places formPlaces with longer | enough
    · have nonneg : 0 ≤ exact := by
        have power : (0 : ℚ) < 10 ^ formPlaces := by positivity
        refine nonneg_of_mul_nonneg_left ?_ power
        rw [← isForm]
        positivity
      have large : overflowBound ≤ form := by
        calc
          overflowBound ≤ exact * 10 ^ (places + 1) := filled
          _ ≤ exact * 10 ^ formPlaces :=
            mul_le_mul_of_nonneg_left
              (pow_le_pow_right₀ (by norm_num) longer) nonneg
          _ = form := isForm.symm
      have small : (form : ℚ) ≤ maxCoefficient := by exact_mod_cast fits
      exact absurd (large.trans small)
        (not_le.mpr maxCoefficient_lt_overflowBound)
    · exact shorter enough

/-! ## Rounding a quotient -/

section Quotient

/-- A quotient rounded half up. -/
def halfUp (a d : Nat) : Nat :=
  (2 * a + d) / (2 * d)

theorem le_halfUp_iff (m a : Nat) {d : Nat} (positive : 0 < d) :
    m ≤ halfUp a d ↔ (m : ℚ) - 1 / 2 ≤ (a : ℚ) / d := by
  have divisor : (0 : ℚ) < d := by exact_mod_cast positive
  rw [halfUp, Nat.le_div_iff_mul_le (by omega), le_div_iff₀ divisor]
  have cast : m * (2 * d) ≤ 2 * a + d ↔
      (m : ℚ) * (2 * d) ≤ 2 * a + d := by
    exact_mod_cast Iff.rfl
  rw [cast]
  constructor
  · intro below
    linarith
  · intro below
    linarith

theorem abs_halfUp_sub_le (a : Nat) {d : Nat} (positive : 0 < d) :
    |(halfUp a d : ℚ) - (a : ℚ) / d| ≤ 1 / 2 := by
  have reached := (le_halfUp_iff _ a positive).mp le_rfl
  have next := (le_halfUp_iff (halfUp a d + 1) a positive).not.mp
    (Nat.not_succ_le_self _)
  push_cast at next
  rw [abs_le]
  constructor
  · linarith
  · linarith

theorem halfUp_le (a : Nat) {d : Nat} (positive : 0 < d) : halfUp a d ≤ a := by
  have enough : a ≤ a * d := Nat.le_mul_of_pos_right a positive
  have spread : (a + 1) * (2 * d) = 2 * (a * d) + 2 * d := by ring
  rw [halfUp, ← Nat.lt_succ_iff, Nat.div_lt_iff_lt_mul (by omega),
    Nat.succ_eq_add_one, spread]
  omega

/-- Rounding once more is still near, for the error of the first rounding shrinks
with the digits that are dropped. -/
theorem abs_halfUp_sub_le_of_near {exact : ℚ} {coefficient d : Nat}
    (tenth : 10 ≤ d) (near : |(coefficient : ℚ) - exact * d| ≤ 3 / 5) :
    |(halfUp coefficient d : ℚ) - exact| ≤ 3 / 5 := by
  have positive : 0 < d := by omega
  have divisor : (10 : ℚ) ≤ d := by exact_mod_cast tenth
  have unit : (0 : ℚ) < d := by exact_mod_cast positive
  have first := abs_le.mp near
  have above : (coefficient : ℚ) / d ≤ exact + 3 / 50 := by
    rw [div_le_iff₀ unit]
    linarith
  have below : exact - 3 / 50 ≤ (coefficient : ℚ) / d := by
    rw [le_div_iff₀ unit]
    linarith
  have second := abs_le.mp (abs_halfUp_sub_le coefficient positive)
  rw [abs_le]
  constructor
  · linarith
  · linarith

variable {n scale : Nat}

theorem cast_shifted (n scale places : Nat) :
    ((n * Nat.pow 10 places : ℕ) : ℚ) / (Nat.pow 10 scale : ℕ) =
      n / 10 ^ scale * 10 ^ places := by
  simp only [Nat.pow_eq, Nat.cast_mul, Nat.cast_pow, Nat.cast_ofNat]
  ring

theorem pow_ten_pos (scale : Nat) : 0 < Nat.pow 10 scale :=
  Nat.pow_pos (by decide)

theorem not_fits_iff (places : Nat) :
    ¬ n * Nat.pow 10 places / Nat.pow 10 scale ≤ maxCoefficient ↔
      ((maxCoefficient + 1 : ℕ) : ℚ) ≤ n / 10 ^ scale * 10 ^ places := by
  rw [not_le, ← Nat.succ_le_iff, Nat.le_div_iff_mul_le (pow_ten_pos scale),
    ← cast_shifted, le_div_iff₀ (by exact_mod_cast pow_ten_pos scale)]
  exact_mod_cast Iff.rfl

theorem fittingPlaces_eq_none_iff {limit : Nat} :
    fittingPlaces n scale limit = none ↔
      ((maxCoefficient + 1 : ℕ) : ℚ) ≤ n / 10 ^ scale := by
  have whole : ¬ n / Nat.pow 10 scale ≤ maxCoefficient ↔
      ((maxCoefficient + 1 : ℕ) : ℚ) ≤ n / 10 ^ scale := by
    have unshifted : ¬ n * Nat.pow 10 0 / Nat.pow 10 scale ≤ maxCoefficient ↔
        ((maxCoefficient + 1 : ℕ) : ℚ) ≤ n / 10 ^ scale * 10 ^ 0 :=
      not_fits_iff 0
    simpa using unshifted
  induction limit with
  | zero =>
      rw [fittingPlaces, ← whole]
      split_ifs <;> simp_all
  | succ limit induction =>
      rw [fittingPlaces]
      split_ifs with fits
      · simp only [false_iff]
        intro large
        refine (not_fits_iff (limit + 1)).mpr ?_ fits
        exact large.trans (le_mul_of_one_le_right (by positivity)
          (one_le_pow₀ (by norm_num)))
      · exact induction

/-- The decimals that fit are all of those asked for, or one more does not. -/
theorem of_fittingPlaces {limit places : Nat}
    (found : fittingPlaces n scale limit = some places) :
    places ≤ limit ∧
      n * Nat.pow 10 places / Nat.pow 10 scale ≤ maxCoefficient ∧
        (places = limit ∨ overflowBound ≤ n / 10 ^ scale * 10 ^ (places + 1)) := by
  induction limit with
  | zero =>
      rw [fittingPlaces] at found
      split_ifs at found with fits
      cases found
      exact ⟨le_rfl, by simpa using fits, .inl rfl⟩
  | succ limit induction =>
      rw [fittingPlaces] at found
      split_ifs at found with fits
      · cases found
        exact ⟨le_rfl, fits, .inl rfl⟩
      · obtain ⟨within, fitting, last⟩ := induction found
        refine ⟨Nat.le_succ_of_le within, fitting, .inr ?_⟩
        rcases last with rfl | filled
        · exact overflowBound_lt.le.trans ((not_fits_iff _).mp fits)
        · exact filled

/-- The coefficient at some places, before it is known to fit. -/
def roundedAt (n scale places : Nat) : Nat :=
  halfUp (n * Nat.pow 10 places) (Nat.pow 10 scale)

theorem abs_roundedAt_sub_le (n scale places : Nat) :
    |(roundedAt n scale places : ℚ) - n / 10 ^ scale * 10 ^ places| ≤
      1 / 2 := by
  rw [← cast_shifted]
  exact abs_halfUp_sub_le _ (pow_ten_pos scale)

theorem overflows_iff {places : Nat} :
    ¬ roundedAt n scale places ≤ maxCoefficient ↔
      overflowBound ≤ n / 10 ^ scale * 10 ^ places := by
  rw [not_le, ← Nat.succ_le_iff, roundedAt,
    le_halfUp_iff _ _ (pow_ten_pos scale), cast_shifted, overflowBound]
  norm_num [maxCoefficient]

theorem roundPlaces?_of_fits {places : Nat}
    (fits : roundedAt n scale places ≤ maxCoefficient) :
    roundPlaces? n scale places = some (roundedAt n scale places, places) :=
  if_pos fits

theorem roundPlaces?_zero_of_overflow
    (overflows : ¬ roundedAt n scale 0 ≤ maxCoefficient) :
    roundPlaces? n scale 0 = none :=
  if_neg overflows

theorem roundPlaces?_succ_of_overflow {places : Nat}
    (overflows : ¬ roundedAt n scale (places + 1) ≤ maxCoefficient) :
    roundPlaces? n scale (places + 1) =
      some (halfUp (roundedAt n scale (places + 1)) 10, places) := by
  have cut : halfUp (roundedAt n scale (places + 1)) 10 =
      (roundedAt n scale (places + 1) + 5) / 10 := by
    rw [halfUp]
    omega
  rw [cut]
  exact if_neg overflows

theorem roundPlaces?_eq_none_iff {places : Nat} :
    roundPlaces? n scale places = none ↔
      places = 0 ∧ overflowBound ≤ n / 10 ^ scale := by
  by_cases fits : roundedAt n scale places ≤ maxCoefficient
  · rw [roundPlaces?_of_fits fits]
    simp only [reduceCtorEq, false_iff]
    rintro ⟨rfl, large⟩
    refine overflows_iff.mpr ?_ fits
    rwa [pow_zero, mul_one]
  · cases places with
    | zero =>
        have large := overflows_iff.mp fits
        rw [pow_zero, mul_one] at large
        simp [roundPlaces?_zero_of_overflow fits, large]
    | succ places => simp [roundPlaces?_succ_of_overflow fits]

theorem rounds_of_fits {places : Nat} (limited : places ≤ maxPlaces)
    (full : places = scale ∨ places = maxPlaces ∨
      overflowBound ≤ n / 10 ^ scale * 10 ^ (places + 1))
    (fits : roundedAt n scale places ≤ maxCoefficient) :
    Rounds (n / 10 ^ scale) (roundedAt n scale places) places where
  coefficient_le := fits
  places_le := limited
  near := (abs_roundedAt_sub_le n scale places).trans (by norm_num)
  full := by
    refine full.imp_left ?_
    rintro rfl
    have near := abs_roundedAt_sub_le n places places
    rw [div_mul_cancel₀ _ (by positivity)] at near ⊢
    rw [natCast_inj_of_near (near.trans (by norm_num))]

/-- A rounding that leaves 96 bits is rounded again, by a digit more. -/
theorem rounds_of_overflow {places : Nat} (limited : places + 1 ≤ maxPlaces)
    (fits : n * Nat.pow 10 (places + 1) / Nat.pow 10 scale ≤ maxCoefficient)
    (overflows : ¬ roundedAt n scale (places + 1) ≤ maxCoefficient) :
    Rounds (n / 10 ^ scale) (halfUp (roundedAt n scale (places + 1)) 10)
      places := by
  have first := abs_roundedAt_sub_le n scale (places + 1)
  rw [pow_succ, ← mul_assoc] at first
  have again : |(halfUp (roundedAt n scale (places + 1)) 10 : ℚ) -
      n / 10 ^ scale * 10 ^ places| ≤ 3 / 5 :=
    abs_halfUp_sub_le_of_near le_rfl (first.trans (by norm_num))
  constructor
  · have small := (not_fits_iff (places + 1)).not_right.mp fits
    rw [pow_succ] at small
    push_cast at small
    have cut : (halfUp (roundedAt n scale (places + 1)) 10 : ℚ) <
        maxCoefficient + 1 := by
      have room : (1 : ℚ) ≤ maxCoefficient := by norm_num [maxCoefficient]
      have close := (abs_le.mp again).2
      linarith
    exact Nat.lt_succ_iff.mp (by exact_mod_cast cut)
  · exact Nat.le_of_succ_le limited
  · exact again
  · exact .inr (.inr (overflows_iff.mp overflows))

theorem rounds_of_roundPlaces? {places : Nat}
    (limited : places ≤ maxPlaces)
    (fits : n * Nat.pow 10 places / Nat.pow 10 scale ≤ maxCoefficient)
    (full : places = scale ∨ places = maxPlaces ∨
      overflowBound ≤ n / 10 ^ scale * 10 ^ (places + 1))
    {coefficient kept : Nat}
    (rounded : roundPlaces? n scale places = some (coefficient, kept)) :
    Rounds (n / 10 ^ scale) coefficient kept := by
  by_cases rounds : roundedAt n scale places ≤ maxCoefficient
  · rw [roundPlaces?_of_fits rounds] at rounded
    cases rounded
    exact rounds_of_fits limited full rounds
  · cases places with
    | zero =>
        rw [roundPlaces?_zero_of_overflow rounds] at rounded
        cases rounded
    | succ places =>
        rw [roundPlaces?_succ_of_overflow rounds] at rounded
        cases rounded
        exact rounds_of_overflow limited fits rounds

theorem roundFitting?_eq_none_iff :
    roundFitting? n scale = none ↔ overflowBound ≤ n / 10 ^ scale := by
  rw [roundFitting?, Option.bind_eq_none_iff]
  constructor
  · intro refused
    cases found : fittingPlaces n scale (min scale maxPlaces) with
    | none =>
        exact overflowBound_lt.le.trans (fittingPlaces_eq_none_iff.mp found)
    | some places =>
        exact (roundPlaces?_eq_none_iff.mp (refused places found)).2
  · intro large places found
    rw [roundPlaces?_eq_none_iff]
    refine ⟨?_, large⟩
    obtain ⟨_, fits, _⟩ := of_fittingPlaces found
    have small := (not_fits_iff places).not_right.mp fits
    by_contra some
    refine small ?_
    -- A tenth of what leaves 96 bits at one place is already out of reach.
    calc
      ((maxCoefficient + 1 : ℕ) : ℚ) ≤ overflowBound * 10 := by
        norm_num [maxCoefficient, overflowBound]
      _ ≤ n / 10 ^ scale * 10 := by linarith
      _ ≤ n / 10 ^ scale * 10 ^ places :=
        mul_le_mul_of_nonneg_left (le_self_pow₀ (by norm_num) some)
          (by positivity)

theorem rounds_of_roundFitting? {coefficient places : Nat}
    (rounded : roundFitting? n scale = some (coefficient, places)) :
    Rounds (n / 10 ^ scale) coefficient places := by
  obtain ⟨fitting, found, rounded⟩ := Option.bind_eq_some_iff.mp rounded
  obtain ⟨within, fits, last⟩ := of_fittingPlaces found
  refine rounds_of_roundPlaces? (within.trans (Nat.min_le_right _ _)) fits ?_
    rounded
  rcases last with all | filled
  · rcases min_choice scale maxPlaces with ofScale | ofLimit
    · exact .inl (all.trans ofScale)
    · exact .inr (.inl (all.trans ofLimit))
  · exact .inr (.inr filled)

/-- Rounding to the limit of places keeps what an earlier rounding gave. -/
theorem rounds_limitPlaces {exact : ℚ} {coefficient places : Nat}
    (fits : coefficient ≤ maxCoefficient)
    (near : |(coefficient : ℚ) - exact * 10 ^ places| ≤ 3 / 5)
    (full : (coefficient : ℚ) = exact * 10 ^ places ∨ maxPlaces ≤ places ∨
      overflowBound ≤ exact * 10 ^ (places + 1)) :
    Rounds exact (limitPlaces coefficient places).1
      (limitPlaces coefficient places).2 := by
  rcases Nat.lt_or_ge maxPlaces places with beyond | within
  · have limited : limitPlaces coefficient places =
        (halfUp coefficient (Nat.pow 10 (places - maxPlaces)), maxPlaces) := by
      rw [limitPlaces, Nat.min_eq_right beyond.le]
      rfl
    have tenth : 10 ≤ Nat.pow 10 (places - maxPlaces) :=
      Nat.le_self_pow (Nat.sub_ne_zero_of_lt beyond) 10
    have split : exact * 10 ^ places =
        exact * 10 ^ maxPlaces * (Nat.pow 10 (places - maxPlaces) : ℕ) := by
      rw [Nat.pow_eq, Nat.cast_pow, Nat.cast_ofNat, mul_assoc, ← pow_add,
        Nat.add_sub_cancel' beyond.le]
    rw [split] at near
    rw [limited]
    exact ⟨(halfUp_le _ (pow_ten_pos _)).trans fits, le_rfl,
      abs_halfUp_sub_le_of_near tenth near, .inr (.inl rfl)⟩
  · rw [limitPlaces_of_le within]
    exact ⟨fits, within, near,
      full.imp_right (Or.imp_left (Nat.le_antisymm within))⟩

end Quotient

/-! ## Rounding a magnitude -/

/-- The least magnitude with a decimal within the limit of places. -/
def underflowBound : ℚ :=
  (10 : ℚ) ^ (-(maxPlaces : ℤ))

section Magnitude

variable {n : Nat} {scale : Int}

theorem magnitude_of_nonpos (nonpos : scale ≤ 0) :
    magnitude n scale = (n * Nat.pow 10 (-scale).toNat : ℕ) := by
  have exponent : -scale = ((-scale).toNat : ℤ) := by omega
  rw [magnitude, exponent, zpow_natCast, Int.toNat_natCast, Nat.pow_eq]
  push_cast
  rfl

theorem magnitude_of_nonneg (nonneg : 0 ≤ scale) :
    magnitude n scale = n / 10 ^ scale.toNat := by
  have exponent : scale = (scale.toNat : ℤ) := by omega
  rw [magnitude, exponent, zpow_neg, zpow_natCast, Int.toNat_natCast,
    div_eq_mul_inv]

/-- A very small magnitude is a number between one and ten, so many places
down. -/
theorem magnitude_of_isVerySmall (small : isVerySmall n scale = true)
    (places : Nat) :
    magnitude n scale * 10 ^ (places + smallExponent n scale) =
      n / 10 ^ (digitCount n - 1) * 10 ^ places := by
  have digits : 1 ≤ digitCount n := Nat.length_toDigits_pos
  have below := of_decide_eq_true small
  have split : scale.toNat = digitCount n - 1 + smallExponent n scale := by
    rw [smallExponent]
    omega
  rw [magnitude_of_nonneg (by omega), split, pow_add, pow_add]
  field_simp

/-- One more decimal would not fit, or there are as many as are allowed. -/
theorem rounds_of_isVerySmall (small : isVerySmall n scale = true)
    {coefficient places : Nat}
    (rounded : roundFitting? n (digitCount n - 1) = some (coefficient, places)) :
    Rounds (magnitude n scale)
      (limitPlaces coefficient (places + smallExponent n scale)).1
      (limitPlaces coefficient (places + smallExponent n scale)).2 := by
  have rounds := rounds_of_roundFitting? rounded
  apply rounds_limitPlaces rounds.coefficient_le
  · rw [magnitude_of_isVerySmall small]
    exact rounds.near
  · rw [Nat.add_right_comm, magnitude_of_isVerySmall small,
      magnitude_of_isVerySmall small]
    refine rounds.full.imp_right (Or.imp_left ?_)
    rintro rfl
    exact Nat.le_add_right _ _

theorem rounds_of_fixedMagnitude? {coefficient places : Nat}
    (found : fixedMagnitude? n scale = some (coefficient, places)) :
    Rounds (magnitude n scale) coefficient places := by
  simp only [fixedMagnitude?] at found
  split_ifs at found with whole long fits small deep
  · cases found
    refine ⟨fits, Nat.zero_le _, ?_, .inl ?_⟩
    · rw [magnitude_of_nonpos whole]
      norm_num
    · rw [magnitude_of_nonpos whole, pow_zero, mul_one]
  · obtain ⟨⟨first, kept⟩, rounded, limited⟩ := Option.map_eq_some_iff.mp found
    have rounds := rounds_of_isVerySmall small rounded
    simp only [limited] at rounds
    exact rounds
  · rw [magnitude_of_nonneg (by omega)]
    exact rounds_of_roundFitting? found

/-- A magnitude has a decimal within the limit when its leading digit is one. -/
theorem magnitude_lt_underflowBound_iff (positive : 0 < n) :
    magnitude n scale < underflowBound ↔
      (maxPlaces : ℤ) ≤ scale - digitCount n := by
  constructor
  · intro below
    by_contra shallow
    refine absurd below (not_lt.mpr ?_)
    exact (zpow_le_zpow_right₀ (by norm_num) (by omega)).trans
      (ten_zpow_le_magnitude positive scale)
  · intro deep
    exact (magnitude_lt_ten_zpow n scale).trans_le
      (zpow_le_zpow_right₀ (by norm_num) (by omega))

theorem overflowBound_le_of_long (positive : 0 < n)
    (long : (digitCount n : ℤ) - scale > 30) :
    overflowBound ≤ magnitude n scale := by
  calc
    overflowBound ≤ (10 : ℚ) ^ (30 : ℤ) := by norm_num [overflowBound]
    _ ≤ 10 ^ (digitCount n - scale - 1) :=
      zpow_le_zpow_right₀ (by norm_num) (by omega)
    _ ≤ magnitude n scale := ten_zpow_le_magnitude positive scale

theorem not_fits_whole_iff (nonpos : scale ≤ 0) :
    ¬ n * Nat.pow 10 (-scale).toNat ≤ maxCoefficient ↔
      overflowBound ≤ magnitude n scale := by
  rw [magnitude_of_nonpos nonpos]
  constructor
  · intro large
    refine overflowBound_lt.le.trans ?_
    exact_mod_cast Nat.lt_of_not_le large
  · intro large fits
    refine absurd large (not_le.mpr ?_)
    exact lt_of_le_of_lt (by exact_mod_cast fits) maxCoefficient_lt_overflowBound

theorem roundFitting?_significand_ne_none (n : Nat) :
    roundFitting? n (digitCount n - 1) ≠ none := by
  rw [ne_eq, roundFitting?_eq_none_iff, not_le]
  have digits : digitCount n - 1 + 1 = digitCount n :=
    Nat.sub_add_cancel Nat.length_toDigits_pos
  have below : (n : ℚ) < 10 * 10 ^ (digitCount n - 1) := by
    rw [← pow_succ', digits]
    exact_mod_cast lt_ten_pow_digitCount n
  calc
    (n : ℚ) / 10 ^ (digitCount n - 1) < 10 :=
      (div_lt_iff₀ (by positivity)).mpr below
    _ < overflowBound := by norm_num [overflowBound]

/-- What is refused leaves 96 bits, or has no decimal within the limit. -/
theorem fixedMagnitude?_eq_none_iff (normal : n = 0 → scale = 0) :
    fixedMagnitude? n scale = none ↔
      overflowBound ≤ magnitude n scale ∨
        n ≠ 0 ∧ magnitude n scale < underflowBound := by
  have digits : 1 ≤ digitCount n := Nat.length_toDigits_pos
  have limit : maxPlaces = 28 := rfl
  have underflows : n ≠ 0 ∧ magnitude n scale < underflowBound ↔
      n ≠ 0 ∧ (maxPlaces : ℤ) ≤ scale - digitCount n :=
    and_congr_right fun nonzero =>
      magnitude_lt_underflowBound_iff (Nat.pos_of_ne_zero nonzero)
  rw [underflows]
  simp only [fixedMagnitude?]
  split_ifs with whole long fits small deep
  · have positive : 0 < n := by
      apply Nat.pos_of_ne_zero
      rintro rfl
      rw [normal rfl] at long
      exact absurd long (by decide)
    exact iff_of_true rfl (.inl (overflowBound_le_of_long positive long))
  · refine iff_of_false not_false ?_
    rintro (large | ⟨_, deep⟩)
    · exact (not_fits_whole_iff whole).mpr large fits
    · omega
  · exact iff_of_true rfl (.inl ((not_fits_whole_iff whole).mp fits))
  · refine iff_of_true rfl (.inr ⟨?_, ?_⟩)
    · intro zero
      exact whole (normal zero).le
    · rw [smallExponent] at deep
      omega
  · have significand := roundFitting?_significand_ne_none n
    rw [Option.map_eq_none_iff]
    refine iff_of_false significand ?_
    rintro (large | ⟨_, deeper⟩)
    · have below := of_decide_eq_true small
      refine absurd large (not_le.mpr ?_)
      calc
        magnitude n scale < 10 ^ (digitCount n - scale) :=
          magnitude_lt_ten_zpow n scale
        _ ≤ (10 : ℚ) ^ (0 : ℤ) := zpow_le_zpow_right₀ (by norm_num) (by omega)
        _ < overflowBound := by norm_num [overflowBound]
    · rw [smallExponent] at deep
      omega
  · rw [roundFitting?_eq_none_iff, magnitude_of_nonneg (by omega)]
    refine (or_iff_left ?_).symm
    rintro ⟨_, deep⟩
    have notSmall : ¬ 5 < scale - digitCount n := by
      simpa [isVerySmall] using small
    omega

end Magnitude

section NormalForm

/-- Zeros that are taken off are made up for by the scale. -/
theorem magnitude_stripZeros (fuel n : Nat) (scale : Int) :
    magnitude (stripZeros fuel n scale).1 (stripZeros fuel n scale).2 =
      magnitude n scale := by
  induction fuel generalizing n scale with
  | zero => rfl
  | succ fuel ih =>
    unfold stripZeros
    split_ifs with zero divisible
    · simp [magnitude, zero]
    · have restored : n = 10 * (n / 10) :=
        (Nat.mul_div_cancel' (Nat.dvd_of_mod_eq_zero divisible)).symm
      have exponent : -(scale - 1) = -scale + 1 := by ring
      calc
        magnitude _ _ = magnitude (n / 10) (scale - 1) := ih (n / 10) (scale - 1)
        _ = (10 * (n / 10) : ℕ) * 10 ^ (-scale) := by
          rw [magnitude, exponent, zpow_add₀ (by norm_num), zpow_one]
          push_cast
          ring
        _ = magnitude n scale := by rw [← restored, magnitude]
    · rfl

theorem magnitude_eq_zero_iff (n : Nat) (scale : Int) :
    magnitude n scale = 0 ↔ n = 0 := by
  have unit : (10 : ℚ) ^ (-scale) ≠ 0 := zpow_ne_zero _ (by norm_num)
  rw [magnitude, mul_eq_zero_iff_right unit, Nat.cast_eq_zero]

theorem abs_toRat (number : Decimal) :
    |number.toRat| =
      magnitude number.coefficient.natAbs number.scale.toInt := by
  have unit : (0 : ℚ) < 10 ^ (-number.scale.toInt) := zpow_pos (by norm_num) _
  rw [toRat, scaled, abs_mul, abs_of_pos unit, magnitude, Nat.cast_natAbs,
    Int.cast_abs]

theorem magnitude_normalForm (number : Decimal) :
    magnitude number.normalForm.1 number.normalForm.2 = |number.toRat| := by
  rw [abs_toRat]
  exact magnitude_stripZeros _ _ _

theorem normalForm_ne_zero_iff {number : Decimal} :
    number.normalForm.1 ≠ 0 ↔ number.toRat ≠ 0 := by
  rw [ne_eq, ← magnitude_eq_zero_iff _ number.normalForm.2,
    magnitude_normalForm, abs_eq_zero]

theorem normalForm_scale_of_zero {number : Decimal}
    (zero : number.normalForm.1 = 0) : number.normalForm.2 = 0 := by
  have vanishes : number.coefficient.natAbs = 0 := by
    rw [← magnitude_eq_zero_iff _ number.scale.toInt, ← abs_toRat,
      ← magnitude_normalForm, zero, magnitude, Nat.cast_zero, zero_mul]
  rw [normalForm, vanishes]
  rfl

end NormalForm

section Signed

variable {number fixed : Decimal}

/-- A fixed-point number stands for a number up to its last decimal, and has as
many decimals as the limit allows or one less than leave 96 bits. -/
structure RoundsTo (number fixed : Decimal) : Prop where
  isFixed : IsFixed96 fixed
  near : |fixed.toRat - number.toRat| * 10 ^ fixed.scale.toInt ≤ 3 / 5
  full : fixed.toRat = number.toRat ∨ fixed.scale.toInt = maxPlaces ∨
    overflowBound ≤ |number.toRat| * 10 ^ (fixed.scale.toInt + 1)

/-- A magnitude with the sign of a number. -/
def withSignOf (number : Decimal) (coefficient places : Nat) : Decimal :=
  ⟨if number.coefficient < 0 then -coefficient else coefficient,
    Int64.ofNat places⟩

theorem toInt_ofNat_of_le {places : Nat} (limited : places ≤ maxPlaces) :
    (Int64.ofNat places).toInt = places := by
  apply Int64.toInt_ofNat_of_lt
  exact lt_of_le_of_lt limited (by decide)

/-- With the sign of the number, a magnitude is as far from the number as it is
from the magnitude of the number. -/
theorem abs_toRat_withSignOf_sub (number : Decimal) (coefficient : Nat)
    {places : Nat} (limited : places ≤ maxPlaces) :
    |(withSignOf number coefficient places).toRat - number.toRat| *
        10 ^ (places : ℤ) =
      |(coefficient : ℚ) - |number.toRat| * 10 ^ places| := by
  have unit : (0 : ℚ) < 10 ^ (places : ℤ) := zpow_pos (by norm_num) _
  have inverse : (10 : ℚ) ^ (-(places : ℤ)) * 10 ^ (places : ℤ) = 1 := by
    rw [← zpow_add₀ (by norm_num), neg_add_cancel, zpow_zero]
  have shift : (0 : ℚ) < 10 ^ (-number.scale.toInt) := zpow_pos (by norm_num) _
  have signed : (withSignOf number coefficient places).toRat *
      10 ^ (places : ℤ) =
        if number.coefficient < 0 then -(coefficient : ℚ) else coefficient := by
    rw [toRat, scaled, withSignOf, toInt_ofNat_of_le limited, mul_assoc, inverse,
      mul_one]
    split_ifs <;> push_cast <;> rfl
  rw [← abs_of_pos unit, ← abs_mul, sub_mul, signed, ← zpow_natCast]
  by_cases negative : number.coefficient < 0
  · have below : number.toRat ≤ 0 :=
      mul_nonpos_of_nonpos_of_nonneg (by exact_mod_cast negative.le) shift.le
    rw [if_pos negative, abs_of_nonpos below, ← abs_neg]
    congr 1
    ring
  · have above : 0 ≤ number.toRat :=
      mul_nonneg (by exact_mod_cast not_lt.mp negative) shift.le
    rw [if_neg negative, abs_of_nonneg above]

theorem toRat_withSignOf_eq_iff {coefficient places : Nat}
    (limited : places ≤ maxPlaces) :
    (withSignOf number coefficient places).toRat = number.toRat ↔
      (coefficient : ℚ) = |number.toRat| * 10 ^ places := by
  have unit : (10 : ℚ) ^ (places : ℤ) ≠ 0 := zpow_ne_zero _ (by norm_num)
  rw [← sub_eq_zero, ← abs_eq_zero, ← mul_eq_zero_iff_right unit,
    abs_toRat_withSignOf_sub _ _ limited, abs_eq_zero, sub_eq_zero]

theorem toFixed96?_eq_some_iff :
    number.toFixed96? = some fixed ↔
      ∃ coefficient places,
        fixedMagnitude? number.normalForm.1 number.normalForm.2 =
          some (coefficient, places) ∧
        withSignOf number coefficient places = fixed := by
  simp only [toFixed96?, Option.map_eq_some_iff, Prod.exists, withSignOf]

theorem roundsTo_of_toFixed96? (found : number.toFixed96? = some fixed) :
    RoundsTo number fixed := by
  obtain ⟨coefficient, places, rounded, rfl⟩ := toFixed96?_eq_some_iff.mp found
  have rounds := rounds_of_fixedMagnitude? rounded
  rw [magnitude_normalForm] at rounds
  have scale : (withSignOf number coefficient places).scale.toInt = places :=
    toInt_ofNat_of_le rounds.places_le
  have distance := abs_toRat_withSignOf_sub number coefficient
    rounds.places_le
  refine ⟨⟨?_, ?_, ?_⟩, ?_, ?_⟩
  · rw [scale]
    exact Int.natCast_nonneg _
  · rw [scale]
    exact_mod_cast rounds.places_le
  · refine le_of_eq_of_le ?_ rounds.coefficient_le
    unfold withSignOf
    split_ifs <;> simp
  · rw [scale, distance]
    exact rounds.near
  · rw [scale]
    refine rounds.full.imp (toRat_withSignOf_eq_iff rounds.places_le).mpr
      (.imp (congrArg _) fun large => ?_)
    exact_mod_cast large

/-- A number with a fixed-point form is kept, whichever of its forms it comes
in. -/
theorem toRat_eq_of_isFixed96 (found : number.toFixed96? = some fixed)
    {form : Decimal} (isFixed : IsFixed96 form)
    (same : form.toRat = number.toRat) : fixed.toRat = number.toRat := by
  obtain ⟨coefficient, places, rounded, rfl⟩ := toFixed96?_eq_some_iff.mp found
  have rounds := rounds_of_fixedMagnitude? rounded
  rw [magnitude_normalForm] at rounds
  have within := isFixed.scale_le
  have places : (form.scale.toInt.toNat : ℤ) = form.scale.toInt :=
    Int.toNat_of_nonneg isFixed.scale_nonneg
  have aligned : (form.coefficient.natAbs : ℚ) =
      |number.toRat| * 10 ^ form.scale.toInt.toNat := by
    rw [← same, abs_toRat, magnitude_of_nonneg isFixed.scale_nonneg,
      div_mul_cancel₀ _ (by positivity)]
  exact (toRat_withSignOf_eq_iff rounds.places_le).mpr
    (rounds.eq_of_form isFixed.coefficient_le (by omega) aligned)

theorem toRat_eq_iff_exists_isFixed96
    (found : number.toFixed96? = some fixed) :
    fixed.toRat = number.toRat ↔
      ∃ form, IsFixed96 form ∧ form.toRat = number.toRat :=
  ⟨fun same => ⟨fixed, (roundsTo_of_toFixed96? found).isFixed, same⟩,
    fun ⟨_, isFixed, same⟩ => toRat_eq_of_isFixed96 found isFixed same⟩

theorem toFixed96?_eq_none_iff :
    number.toFixed96? = none ↔
      overflowBound ≤ |number.toRat| ∨
        number.toRat ≠ 0 ∧ |number.toRat| < underflowBound := by
  rw [toFixed96?, Option.map_eq_none_iff,
    fixedMagnitude?_eq_none_iff normalForm_scale_of_zero, magnitude_normalForm,
    normalForm_ne_zero_iff]

theorem IsFixed96.inRange (isFixed : IsFixed96 fixed) :
    fixed.toRat = 0 ∨
      underflowBound ≤ |fixed.toRat| ∧ |fixed.toRat| < overflowBound := by
  refine or_iff_not_imp_left.mpr fun nonzero => ?_
  have positive : 1 ≤ fixed.coefficient.natAbs := by
    rw [Nat.one_le_iff_ne_zero, ne_eq,
      ← magnitude_eq_zero_iff _ fixed.scale.toInt, ← abs_toRat,
      abs_eq_zero]
    exact nonzero
  rw [abs_toRat]
  constructor
  · calc
      underflowBound = 1 * 10 ^ (-(maxPlaces : ℤ)) := (one_mul _).symm
      _ ≤ magnitude fixed.coefficient.natAbs fixed.scale.toInt := by
        refine mul_le_mul (by exact_mod_cast positive) ?_
          (zpow_nonneg (by norm_num) _) (Nat.cast_nonneg _)
        refine zpow_le_zpow_right₀ (by norm_num) ?_
        exact neg_le_neg isFixed.scale_le
  · rw [magnitude_of_nonneg isFixed.scale_nonneg]
    calc
      (fixed.coefficient.natAbs : ℚ) / 10 ^ fixed.scale.toInt.toNat
          ≤ fixed.coefficient.natAbs :=
        div_le_self (by positivity) (one_le_pow₀ (by norm_num))
      _ ≤ maxCoefficient := by exact_mod_cast isFixed.coefficient_le
      _ < overflowBound := maxCoefficient_lt_overflowBound

end Signed

end KeysetPaging.Decimal
