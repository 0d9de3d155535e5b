import KeysetPaging.Proofs.Decimal.Fixed96
import KeysetPaging.Proofs.Decimal.Integer
import KeysetPaging.Proofs.Text.Numeral
import KeysetPaging.Sql.Bound

/-!
# Numbers in columns

Numbers are written with any digits at any scale, but a column holds a machine
number.  What a column can hold goes through it unchanged: a whole number is
bound to an integer column exactly when 64 bits hold it, and a number is bound
to a decimal column without loss exactly when it has a fixed-point form.  A
decimal column also takes the numbers between, to the last decimal it has room
for, and refuses what leaves its range at either end.
-/

namespace KeysetPaging.Sql.Bound

open Decimal

variable {number : Decimal} {bound : Bound}

theorem ofValue_int64_eq_ok_iff :
    ofValue .int64 (.number number) = .ok bound ↔
      ∃ n, number.truncate? = some n ∧ bound = .integer n := by
  change orMismatch .int64 (.number number) (number.truncate?.map .integer) =
    .ok bound ↔ _
  cases number.truncate? with
  | none => simp [orMismatch]
  | some n => simp [orMismatch, eq_comm]

theorem ofValue_decimal_eq_ok_iff :
    ofValue .decimal (.number number) = .ok bound ↔
      ∃ fixed, number.toFixed96? = some fixed ∧ bound = .decimal fixed := by
  simp only [ofValue, Value.unwrapEnum, ofNumber]
  cases number.toFixed96? with
  | none => simp
  | some fixed => simp [eq_comm]

theorem exists_ofValue_decimal_iff :
    (∃ bound, ofValue .decimal (.number number) = .ok bound) ↔
      number.toRat = 0 ∨
        underflowBound ≤ |number.toRat| ∧ |number.toRat| < overflowBound := by
  have positive : 0 < overflowBound := by norm_num [overflowBound]
  have bindable : (∃ bound, ofValue .decimal (.number number) = .ok bound) ↔
      number.toFixed96? ≠ none := by
    simp only [ofValue_decimal_eq_ok_iff, Option.ne_none_iff_exists']
    constructor
    · rintro ⟨bound, fixed, found, same⟩
      exact ⟨fixed, found⟩
    · rintro ⟨fixed, found⟩
      exact ⟨.decimal fixed, fixed, found, rfl⟩
  rw [bindable, ne_eq, toFixed96?_eq_none_iff]
  by_cases zero : number.toRat = 0
  · refine iff_of_true ?_ (.inl zero)
    simp [zero, positive]
  · simp only [zero, ne_eq, not_false_eq_true, true_and, false_or, not_or,
      not_le, not_lt]
    exact and_comm

/-- Columns take the numbers they can hold, unchanged.  A whole number is bound
to an integer column exactly when it is a signed 64-bit integer, and as that
integer.  A decimal column takes zero and what lies between the ends of its
range; what it binds is the number itself exactly when the number has a
fixed-point form, and otherwise stands for it up to the last decimal.  A number
with a fixed-point form is never refused. -/
theorem ofValue_number (number : Decimal) :
    ((∃ m : Int, number.toRat = m) → ∀ bound,
      ofValue .int64 (.number number) = .ok bound ↔
        ∃ n : Int64, bound = .integer n ∧ number.toRat = n.toInt) ∧
    ((∃ bound, ofValue .decimal (.number number) = .ok bound) ↔
      number.toRat = 0 ∨
        underflowBound ≤ |number.toRat| ∧ |number.toRat| < overflowBound) ∧
    (∀ bound, ofValue .decimal (.number number) = .ok bound →
      ∃ fixed, bound = .decimal fixed ∧ RoundsTo number fixed ∧
        (fixed.toRat = number.toRat ↔
          ∃ form, IsFixed96 form ∧ form.toRat = number.toRat)) ∧
    (∀ form, IsFixed96 form → form.toRat = number.toRat →
      ∃ fixed, ofValue .decimal (.number number) = .ok (.decimal fixed) ∧
        fixed.toRat = number.toRat) := by
  refine ⟨?_, exists_ofValue_decimal_iff, ?_, ?_⟩
  · rintro ⟨m, whole⟩ bound
    simp only [ofValue_int64_eq_ok_iff, truncate?_of_toRat_eq whole, whole,
      Text.int64OfInt?_eq_some_iff, Int.cast_inj]
    exact exists_congr fun n => and_comm.trans (and_congr_right' eq_comm)
  · intro bound converted
    obtain ⟨fixed, found, rfl⟩ := ofValue_decimal_eq_ok_iff.mp converted
    exact ⟨fixed, rfl, roundsTo_of_toFixed96? found,
      toRat_eq_iff_exists_isFixed96 found⟩
  · intro form isFixed same
    have inRange := isFixed.inRange
    rw [same] at inRange
    obtain ⟨bound, converted⟩ := exists_ofValue_decimal_iff.mpr inRange
    obtain ⟨fixed, found, rfl⟩ := ofValue_decimal_eq_ok_iff.mp converted
    exact ⟨fixed, converted, toRat_eq_of_isFixed96 found isFixed same⟩

/-- The least 64-bit integer is bound as itself though it is written with a
decimal, and so is the greatest coefficient with a decimal beyond the limit of
places. -/
theorem ofValue_number_ends :
    ofValue .int64 (.number ⟨-92233720368547758080, 1⟩) =
      .ok (.integer Int64.minValue) ∧
    ∃ fixed,
      ofValue .decimal (.number ⟨792281625142643375935439503350, 29⟩) =
        .ok (.decimal fixed) ∧
      fixed.toRat = toRat ⟨79228162514264337593543950335, 28⟩ := by
  have least : toRat ⟨-92233720368547758080, 1⟩ = Int64.minValue.toInt :=
    toRat_eq_intCast_iff.mpr (by decide)
  have greatest : toRat ⟨79228162514264337593543950335, 28⟩ =
      toRat ⟨792281625142643375935439503350, 29⟩ :=
    compare_eq_eq_iff.mp (by decide)
  constructor
  · exact ((ofValue_number _).1 ⟨_, least⟩ _).mpr ⟨_, rfl, least⟩
  · rw [greatest]
    exact (ofValue_number _).2.2.2 _ ⟨by decide, by decide, by decide⟩ greatest

/-- A fraction is bound to an integer column without its decimals, and a number
with a decimal too many is bound to a decimal column as its neighbour. -/
theorem ofValue_number_rounded :
    ofValue .int64 (.number ⟨15, 1⟩) = .ok (.integer 1) ∧
    toRat ⟨15, 1⟩ ≠ (1 : Int64).toInt ∧
    ofValue .decimal (.number ⟨15, 29⟩) = .ok (.decimal ⟨2, 28⟩) ∧
    toRat ⟨2, 28⟩ ≠ toRat ⟨15, 29⟩ ∧
    ¬ ∃ form, IsFixed96 form ∧ form.toRat = toRat ⟨15, 29⟩ := by
  have found : toFixed96? ⟨15, 29⟩ = some ⟨2, 28⟩ := by decide
  have differ : toRat ⟨2, 28⟩ ≠ toRat ⟨15, 29⟩ :=
    compare_eq_eq_iff.not.mp (by decide)
  have fraction : toRat ⟨15, 1⟩ ≠ (1 : Int64).toInt :=
    toRat_eq_intCast_iff.not.mpr (by decide)
  refine ⟨by decide, fraction, by decide, differ, ?_⟩
  exact (toRat_eq_iff_exists_isFixed96 found).not.mp differ

end KeysetPaging.Sql.Bound
