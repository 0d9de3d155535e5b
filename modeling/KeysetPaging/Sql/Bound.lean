import KeysetPaging.Decimal.Binary64
import KeysetPaging.Filter.Basic

/-!
# Bound values

A constant of a filter is bound as a value of its column's type.  Most kinds of
values are bound as they are and fit columns of their own type only.  A number
fits four types: an integer column takes its whole part, a floating-point column
the nearest binary number, and a decimal column the nearest number of 96 bits.
Enum members are bound as their underlying integers.
-/

namespace KeysetPaging.Sql

inductive Bound where
  | text (value : String)
  | integer (value : Int64)
  /-- A binary64 number, by its bit pattern. -/
  | double (bits : Nat)
  | decimal (value : Decimal)
  | bool (value : Bool)
  | guid (value : Guid)
  | instant (value : Instant)
  | date (value : Date)
  | time (value : TimeOfDay)
deriving DecidableEq

namespace Bound

/-- An optional conversion, where a missing one is a mismatch of types. -/
def orMismatch {α : Type} (kind : PrimitiveKind) (value : Value) :
    Option α → Except FilterFault α
  | some bound => .ok bound
  | none => .error (.typeMismatch kind value)

/-- The number bound to a column of a type. -/
def ofNumber (kind : PrimitiveKind) (number : Decimal) :
    Except FilterFault Bound :=
  match kind with
  | .int64 => orMismatch kind (.number number) (number.truncate?.map .integer)
  | .float64 => .ok (.double number.toBinary64)
  | .decimal =>
      match number.toFixed96? with
      | some fixed => .ok (.decimal fixed)
      | none => .error (.decimalOverflow number)
  | _ => .error (.typeMismatch kind (.number number))

/-- The value bound to a column of a type, enum members by their integers. -/
def ofValue (kind : PrimitiveKind) (value : Value) :
    Except FilterFault Bound :=
  match kind, value.unwrapEnum with
  | _, .number number => ofNumber kind number
  | .string, .string value => .ok (.text value)
  | .bool, .bool value => .ok (.bool value)
  | .guid, .guid value => .ok (.guid value)
  | .instant, .instant value => .ok (.instant value)
  | .date, .date value => .ok (.date value)
  | .time, .time value => .ok (.time value)
  | _, mismatched => .error (.typeMismatch kind mismatched)

end Bound

end KeysetPaging.Sql
