import KeysetPaging.Proofs.Decimal.Integer
import KeysetPaging.Proofs.Literal.Acceptance

/-!
# Literals of declared types read back

With a declared type a literal needs no shape: the one reader of that type is
asked.  It still has to take the spelling that values have.  Three of the
primitive types hold numbers, and the one of 64-bit integers reads numerals
without a point; the spelling of a number is such a numeral exactly when the
number is written without decimals, so a whole number may have to be read as
another type.

Null is a value of every type, and its literal is no literal of any other value.
-/

namespace KeysetPaging

namespace Decimal

theorem scale_nonpos_of_point_not_mem {number : Decimal}
    (pointless : '.' ∉ number.spelling) : number.scale.toInt ≤ 0 := by
  apply Int.not_lt.mp
  intro positive
  obtain ⟨whole, decimals, text, _⟩ :=
    magnitudeText_of_pos number.coefficient.natAbs positive
  apply pointless
  rw [spelling_eq, text]
  simp

theorem int64?_spelling {number : Decimal} {n : Int64}
    (pointless : '.' ∉ number.spelling) (value : number.toRat = n.toInt) :
    Text.int64? number.spelling = some n := by
  have nonpos := scale_nonpos_of_point_not_mem pointless
  have unspaced : '_' ∉ number.spelling := by
    intro member
    rcases mem_spelling member with digit | point | hyphen
    · exact absurd digit (by decide)
    · exact absurd point (by decide)
    · exact absurd hyphen (by decide)
  rw [Text.int64?_eq_some_iff, ← coefficient?_eq_integer? unspaced,
    coefficient?_spelling_of_nonpos nonpos, toRat_eq_intCast_iff.mp value,
    Int.toNat_of_nonpos nonpos, pow_zero, mul_one]

end Decimal

namespace Literal

/-- The values that are written in a way that a primitive type reads. -/
inductive FitsKind : Value → PrimitiveKind → Prop where
  | bool (value : Bool) : FitsKind (.bool value) .bool
  | int64 (number : Decimal) (n : Int64) (pointless : '.' ∉ number.spelling)
      (value : number.toRat = n.toInt) : FitsKind (.number number) .int64
  | float64 (number : Decimal) : FitsKind (.number number) .float64
  | decimal (number : Decimal) : FitsKind (.number number) .decimal
  | guid (guid : Guid) : FitsKind (.guid guid) .guid
  | instant (instant : Instant) (writable : instant.HasFourDigitYear) :
      FitsKind (.instant instant) .instant
  | date (date : Date) : FitsKind (.date date) .date
  | time (time : TimeOfDay) : FitsKind (.time time) .time
  | string (text : String) : FitsKind (.string text) .string

/-- The values that are written in a way that a declared type reads. -/
inductive Fits (model : Model) : Value → TypeRef → Prop where
  | null (type : TypeRef) : Fits model .null type
  | primitive {value : Value} {kind : PrimitiveKind}
      (fits : FitsKind value kind) : Fits model value (.primitive kind)
  | enum (member : EnumMember) (enum : EnumType)
      (declared : model.enumType? member.typeName = some enum)
      (first : (enum.memberNamed? member.member).map Prod.snd =
        some member.value) :
      Fits model (.enum member) (.enum member.typeName)

theorem FitsKind.hasShape {value : Value} {kind : PrimitiveKind}
    (fits : FitsKind value kind) : HasShape value ∧ value ≠ .null := by
  cases fits with
  | instant instant writable => exact ⟨writable, nofun⟩
  | _ => exact ⟨trivial, nofun⟩

theorem spelling_ne_nullText {value : Value} (shaped : HasShape value)
    (present : value ≠ .null) : spelling value ≠ nullText := by
  intro same
  obtain ⟨read, parsed, agree⟩ := parse_spelling shaped
  have null : parse nullText = .ok .null := rfl
  rw [same, null] at parsed
  cases parsed
  cases value with
  | null => exact present rfl
  | _ => cases agree

theorem exists_primitive?_spelling {value : Value} {kind : PrimitiveKind}
    (fits : FitsKind value kind) :
    ∃ read, primitive? kind (spelling value) = some read ∧
      value.identical read = true := by
  have exactly (read : primitive? kind (spelling value) = some value) :
      ∃ read, primitive? kind (spelling value) = some read ∧
        value.identical read = true :=
    ⟨value, read, value.identical_refl⟩
  have numeric (number : Decimal) :
      ∃ read, (number? number.spelling).map Value.number = some read ∧
        (Value.number number).identical read = true := by
    obtain ⟨read, denoted, same⟩ := number?_spelling number
    refine ⟨.number read, ?_, beq_iff_eq.mpr same⟩
    rw [denoted, Option.map_some]
  cases fits with
  | bool value => cases value <;> exact exactly rfl
  | int64 number n pointless value =>
      refine ⟨.ofInt64 n, ?_, ?_⟩
      · rw [primitive?, spelling, Decimal.int64?_spelling pointless value,
          Option.map_some]
      · rw [Value.ofInt64, Value.identical, beq_iff_eq,
          Decimal.compare_eq_eq_iff, value, Decimal.toRat_ofInt64]
  | float64 number => exact numeric number
  | decimal number => exact numeric number
  | guid guid =>
      apply exactly
      rw [primitive?, spelling, Guid.ofText?_eq_ofGrouped? guid.length_spelling,
        Guid.ofGrouped?_spelling, Option.map_some]
  | instant instant writable =>
      apply exactly
      rw [primitive?, spelling, Instant.ofText?_spelling writable,
        Option.map_some]
  | date date =>
      apply exactly
      rw [primitive?, spelling, Date.ofText?_spelling, Option.map_some]
  | time time =>
      apply exactly
      rw [primitive?, spelling, TimeOfDay.ofText?_spelling, Option.map_some]
  | string text =>
      apply exactly
      rw [primitive?, spelling, string?_eq_some_iff.mpr rfl, Option.map_some]

theorem exists_parseTyped_spelling {model : Model} {value : Value}
    {type : TypeRef} (fits : Fits model value type) :
    ∃ read, parseTyped model type (spelling value) = .ok read ∧
      value.identical read = true := by
  cases fits with
  | null type => exact ⟨.null, rfl, rfl⟩
  | primitive fits =>
      obtain ⟨shaped, present⟩ := fits.hasShape
      obtain ⟨read, denoted, agree⟩ := exists_primitive?_spelling fits
      refine ⟨read, ?_, agree⟩
      rw [parseTyped, if_neg (spelling_ne_nullText shaped present)]
      exact orInvalid_eq_ok_iff.mpr denoted
  | enum member enum declared first =>
      obtain ⟨⟨name, number⟩, named, same⟩ := Option.map_eq_some_iff.mp first
      obtain rfl : number = member.value := same
      exact ⟨.enum member, parseTyped_spelling declared named,
        Value.identical_refl _⟩

def priority : EnumType :=
  { space := "Support", name := "Priority", members := [("Low", 1), ("High", 2)] }

end Literal

end KeysetPaging
