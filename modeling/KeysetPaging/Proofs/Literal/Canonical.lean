import KeysetPaging.Proofs.Literal.Acceptance

/-!
# Canonical literals

Literals are accepted in many spellings, and the value of each is written in one.
That one is accepted as well and is written as it stands, with two exceptions.
An offset can move a date-time out of the four-digit years, into the year 10000
or into the year before 0; such a year is written with a sign, and a date-time
that begins with a sign is not accepted.  And an exponent can give zero trailing
zeros, which are written, read as the digits of a zero without exponent, and then
left out.
-/

namespace KeysetPaging

namespace Text

theorem digits_mul_ten_pow {n : Nat} (positive : 0 < n) (count : Nat) :
    digits (n * 10 ^ count) = digits n ++ List.replicate count '0' := by
  induction count with
  | zero => simp
  | succ count induction =>
      have next : digits (n * 10 ^ count) ++ ['0'] =
          digits (10 * (n * 10 ^ count)) :=
        Nat.toDigits_append_toDigits (d := 0) (by decide)
          (Nat.mul_pos positive (Nat.pow_pos (by decide))) (by decide)
      calc
        digits (n * 10 ^ (count + 1)) = digits (10 * (n * 10 ^ count)) := by
          rw [Nat.pow_succ, ← Nat.mul_assoc, Nat.mul_comm]
        _ = digits n ++ List.replicate count '0' ++ ['0'] := by
          rw [← next, induction]
        _ = digits n ++ List.replicate (count + 1) '0' := by
          rw [List.append_assoc, List.replicate_succ']

end Text

namespace Decimal

/-- A zero that is written with zeros after it. -/
def IsPaddedZero (number : Decimal) : Prop :=
  number.coefficient = 0 ∧ number.scale.toInt < 0

theorem spelling_of_nonpos {number : Decimal}
    (nonpos : number.scale.toInt ≤ 0) :
    number.spelling = number.signText ++
      (Text.digits number.coefficient.natAbs ++
        List.replicate (-number.scale.toInt).toNat '0') := by
  rw [spelling_eq, magnitudeText_of_nonpos _ nonpos]

theorem spelling_integer (n : Int) :
    spelling ⟨n, 0⟩ = Text.integerText n := by
  simp [spelling, magnitudeText, Text.integerText]

theorem spelling_eq_integerText {number : Decimal}
    (nonpos : number.scale.toInt ≤ 0) (nonzero : number.coefficient ≠ 0) :
    number.spelling = Text.integerText
      (number.coefficient * 10 ^ (-number.scale.toInt).toNat) := by
  have positive : 0 < number.coefficient.natAbs := Int.natAbs_pos.mpr nonzero
  have digits := Text.digits_mul_ten_pow positive (-number.scale.toInt).toNat
  have magnitude :
      (number.coefficient * 10 ^ (-number.scale.toInt).toNat).natAbs =
        number.coefficient.natAbs * 10 ^ (-number.scale.toInt).toNat := by
    rw [Int.natAbs_mul, Int.natAbs_pow]
    rfl
  have sameSign : number.coefficient * 10 ^ (-number.scale.toInt).toNat < 0 ↔
      number.coefficient < 0 := by
    have power : (0 : Int) < 10 ^ (-number.scale.toInt).toNat :=
      pow_pos (by decide) _
    rw [← Int.sign_eq_neg_one_iff_neg, Int.sign_mul,
      Int.sign_eq_one_of_pos power, mul_one, Int.sign_eq_neg_one_iff_neg]
  rw [spelling_of_nonpos nonpos, Text.integerText, magnitude, digits, signText]
  simp only [sameSign]
  split <;> rfl

theorem spelling_eq_iff_of_ofText? {number read : Decimal}
    (denoted : ofText? number.spelling = some read) :
    read.spelling = number.spelling ↔ ¬ number.IsPaddedZero := by
  by_cases nonpos : number.scale.toInt ≤ 0
  · rw [ofText?_spelling_of_nonpos nonpos, Option.some.injEq] at denoted
    rw [← denoted, spelling_integer]
    by_cases zero : number.coefficient = 0
    · have count : (-number.scale.toInt).toNat = 0 ↔
          ¬ number.IsPaddedZero := by
        rw [IsPaddedZero, not_and]
        constructor
        · intro none _
          omega
        · intro unpadded
          have bound := unpadded zero
          omega
      rw [spelling_of_nonpos nonpos, signText, zero, zero_mul, ← count]
      simp [Text.integerText]
    · have notPadded : ¬ number.IsPaddedZero := fun padded => zero padded.1
      rw [spelling_eq_integerText nonpos zero]
      exact ⟨fun _ => notPadded, fun _ => rfl⟩
  · rw [ofText?_spelling_of_pos (Int.not_le.mp nonpos), Option.some.injEq]
      at denoted
    have notPadded : ¬ number.IsPaddedZero := fun padded => nonpos padded.2.le
    rw [← denoted]
    exact ⟨fun _ => notPadded, fun _ => rfl⟩

end Decimal

namespace Instant

/-- A year of more than four digits, or before 0, is written with a sign. -/
theorem head?_spelling {instant : Instant}
    (unwritable : ¬ instant.HasFourDigitYear) :
    instant.spelling.head? = some '-' ∨ instant.spelling.head? = some '+' := by
  simp only [spelling, Date.spelling, Date.yearText]
  split
  · exact .inl rfl
  · rename_i notNegative
    have long : 9999 < instant.date.year := by
      apply Int.not_le.mp
      exact fun short => unwritable ⟨Int.not_lt.mp notNegative, short⟩
    rw [if_pos long]
    exact .inr rfl

theorem colon_mem_spelling (instant : Instant) : ':' ∈ instant.spelling := by
  rw [spelling, List.mem_append, List.mem_cons, List.mem_append]
  exact .inr (.inr (.inl instant.time.colon_mem_spelling))

end Instant

namespace Literal

/-- A date-time that begins with a sign is read as nothing. -/
theorem value?_spelling_eq_none {instant : Instant}
    (unwritable : ¬ instant.HasFourDigitYear) :
    value? instant.spelling = none := by
  have colon := instant.colon_mem_spelling
  have hyphen := instant.hyphen_mem_spelling
  have signed := Instant.head?_spelling unwritable
  have quoteless : instant.spelling.head? ≠ some '\'' := by
    rcases signed with minus | plus
    · simp [minus]
    · simp [plus]
  rw [value?_of_unquoted hyphen (by decide) quoteless]
  cases read : unquoted? instant.spelling with
  | none => rfl
  | some value =>
      cases unquoted?_eq_some_iff.mp read with
      | guid denoted =>
          exact absurd (Guid.mem_of_ofGrouped? denoted colon) (by decide)
      | instant denoted =>
          obtain ⟨c, first, digit⟩ := Instant.head?_of_ofText? denoted
          rw [first, Option.some.injEq, Option.some.injEq] at signed
          rcases signed with rfl | rfl <;> exact absurd digit (by decide)
      | date denoted =>
          exact absurd (Date.mem_of_ofText? denoted colon) (by decide)
      | time denoted =>
          exact absurd (TimeOfDay.mem_of_ofText? denoted hyphen) (by decide)
      | number denoted =>
          obtain ⟨number, _⟩ := number?_eq_some_iff.mp denoted
          exact absurd (Decimal.isNumeric_of_ofText? number colon) (by decide)

/-- The literal of a value is accepted as the value. -/
def HasCanonicalForm (value : Value) : Prop :=
  ∃ again, parse (spelling value) = .ok again ∧ value.identical again = true

/-- The literal of a value is accepted as the value, and written as it is. -/
def HasStableForm (value : Value) : Prop :=
  ∃ again, parse (spelling value) = .ok again ∧
    value.identical again = true ∧ spelling again = spelling value

variable {text : List Char} {value : Value}

theorem hasCanonicalForm_iff (read : parse text = .ok value) :
    HasCanonicalForm value ↔
      ∀ instant, value = .instant instant → instant.HasFourDigitYear := by
  constructor
  · intro canonical instant same
    by_contra unwritable
    obtain ⟨again, accepted, _⟩ := canonical
    rw [same, spelling, parse, value?_spelling_eq_none unwritable] at accepted
    cases accepted
  · intro writable
    apply parse_spelling
    cases value with
    | instant instant => exact writable instant rfl
    | enum member =>
        rcases isUnquoted_or_string_of_parse read with unquoted | ⟨_, same, _⟩
        · exact unquoted
        · cases same
    | _ => trivial

theorem exists_of_parse_spelling_number {number : Decimal} {again : Value}
    (accepted : parse (spelling (.number number)) = .ok again) :
    ∃ read, again = .number read ∧
      Decimal.ofText? number.spelling = some read := by
  obtain ⟨read, numeric, _⟩ := number?_spelling number
  rw [parse, spelling, value?_of_denotes (.number numeric)] at accepted
  cases accepted
  exact ⟨read, rfl, (number?_eq_some_iff.mp numeric).1⟩

theorem spelling_eq_iff_of_parse_spelling {again : Value}
    (accepted : parse (spelling value) = .ok again)
    (agree : value.identical again = true) :
    spelling again = spelling value ↔
      ∀ number, value = .number number → ¬ number.IsPaddedZero := by
  by_cases isNumber : ∃ number, value = .number number
  · obtain ⟨number, rfl⟩ := isNumber
    obtain ⟨read, rfl, denoted⟩ := exists_of_parse_spelling_number accepted
    rw [spelling, spelling, Decimal.spelling_eq_iff_of_ofText? denoted]
    constructor
    · intro unpadded other same
      cases same
      exact unpadded
    · intro unpadded
      exact unpadded number rfl
  · rcases Value.eq_or_numbers_of_identical agree with
      same | ⟨number, _, same, _⟩
    · rw [same]
      rw [same] at isNumber
      exact ⟨fun _ number same => absurd ⟨number, same⟩ isNumber, fun _ => rfl⟩
    · exact absurd ⟨number, same⟩ isNumber

/-- An accepted literal has a canonical form that is accepted, unless it is a
date-time out of the four-digit years, and that form is its own canonical form,
unless it is a zero with zeros after it. -/
theorem canonical_form_iff (read : parse text = .ok value) :
    (HasCanonicalForm value ↔
      ∀ instant, value = .instant instant → instant.HasFourDigitYear) ∧
      (HasStableForm value ↔
        (∀ instant, value = .instant instant → instant.HasFourDigitYear) ∧
          ∀ number, value = .number number → ¬ number.IsPaddedZero) := by
  have canonical := hasCanonicalForm_iff read
  refine ⟨canonical, ?_⟩
  rw [← canonical]
  constructor
  · intro ⟨again, accepted, agree, stable⟩
    exact ⟨⟨again, accepted, agree⟩,
      (spelling_eq_iff_of_parse_spelling accepted agree).mp stable⟩
  · intro ⟨⟨again, accepted, agree⟩, unpadded⟩
    exact ⟨again, accepted, agree,
      (spelling_eq_iff_of_parse_spelling accepted agree).mpr unpadded⟩

/-- Half past eleven in the evening of a leap day. -/
def leapEvening : Instant where
  date := ⟨2020, 2, 29, by decide, by decide, by decide⟩
  time := ⟨23, 30, 0, 500000000, by decide, by decide, by decide, by decide⟩

/-- A text of the next day, in a zone ahead of UTC, is written for that evening. -/
theorem canonical_form_leapEvening :
    parse "2020-03-01t00:30:00.5+01:00".toList = .ok (.instant leapEvening) ∧
      spelling (.instant leapEvening) = "2020-02-29T23:30:00.500Z".toList ∧
        HasStableForm (.instant leapEvening) := by
  have read : parse "2020-03-01t00:30:00.5+01:00".toList =
      .ok (.instant leapEvening) := rfl
  refine ⟨read, rfl, (canonical_form_iff read).2.mpr ⟨?_, nofun⟩⟩
  intro instant same
  cases same
  exact ⟨by decide, by decide⟩

/-- A text of the year 9999, in a zone behind UTC, has no canonical form, and a
zero with an exponent has one that is not stable. -/
theorem not_canonical_form_firstHalfHour :
    (∃ value, parse "9999-12-31T23:30:00-01:00".toList = .ok value ∧
      spelling value = "+10000-01-01T00:30:00Z".toList ∧
        parse (spelling value) =
          .error (.invalidLiteral "+10000-01-01T00:30:00Z")) ∧
      (parse "0e5".toList = .ok (.number ⟨0, -5⟩) ∧
        spelling (.number ⟨0, -5⟩) = "000000".toList ∧
          parse "000000".toList = .ok (.number ⟨0, 0⟩) ∧
            spelling (.number ⟨0, 0⟩) = "0".toList) ∧
        ¬ ∀ text value, parse text = .ok value → HasCanonicalForm value := by
  have halfHour : ∃ value,
      parse "9999-12-31T23:30:00-01:00".toList = .ok value ∧
        spelling value = "+10000-01-01T00:30:00Z".toList ∧
          parse (spelling value) =
            .error (.invalidLiteral "+10000-01-01T00:30:00Z") :=
    ⟨_, rfl, rfl, rfl⟩
  refine ⟨halfHour, ⟨rfl, rfl, rfl, rfl⟩, ?_⟩
  intro canonical
  obtain ⟨value, read, _, refused⟩ := halfHour
  obtain ⟨again, accepted, _⟩ := canonical _ _ read
  rw [refused] at accepted
  cases accepted

end Literal

end KeysetPaging
