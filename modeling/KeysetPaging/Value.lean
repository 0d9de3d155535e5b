import KeysetPaging.Calendar.Instant
import KeysetPaging.Decimal.Basic
import KeysetPaging.Guid

/-!
# Property values

The values that properties hold, tokens record and filters compare.  An enum
member carries the name of its type and its underlying integer.

Two values are comparable when they have the same kind, with enum members and
numbers counting as one kind; nulls are comparable with nothing.  Sorting and
filtering need more, and `compareNullsFirst` supplies it by placing null before
every other value.
-/

namespace KeysetPaging

/-- A member of an enum type, with its underlying integer. -/
structure EnumMember where
  typeName : String
  member : String
  value : Int64
deriving DecidableEq

inductive Value where
  | null
  | bool (value : Bool)
  | number (value : Decimal)
  | guid (value : Guid)
  | instant (value : Instant)
  | date (value : Date)
  | time (value : TimeOfDay)
  | string (value : String)
  | enum (value : EnumMember)
deriving DecidableEq

namespace Value

def ofInt64 (n : Int64) : Value :=
  .number (Decimal.ofInt64 n)

/-- An enum member gives way to its underlying integer. -/
def unwrapEnum : Value → Value
  | .enum value => ofInt64 value.value
  | value => value

/-- The order of two values of one kind.  Enum members are ordered by their
underlying integers, also against numbers. -/
def compare : Value → Value → Option Ordering
  | .bool left, .bool right => some (Ord.compare left right)
  | .number left, .number right => some (Ord.compare left right)
  | .guid left, .guid right => some (Ord.compare left right)
  | .instant left, .instant right => some (Ord.compare left right)
  | .date left, .date right => some (Ord.compare left right)
  | .time left, .time right => some (Ord.compare left right)
  | .string left, .string right => some (Ord.compare left right)
  | .enum left, .enum right => some (Ord.compare left.value right.value)
  | .enum left, .number right =>
      some (Ord.compare (Decimal.ofInt64 left.value) right)
  | .number left, .enum right =>
      some (Ord.compare left (Decimal.ofInt64 right.value))
  | _, _ => none

/-- Equality in the order, where null equals null and nothing else. -/
def equals : Value → Value → Bool
  | .null, .null => true
  | .null, _ => false
  | _, .null => false
  | left, right => left.compare right == some .eq

/-- Equality of kind and content.  Numbers have the same content when they
have the same value. -/
def identical : Value → Value → Bool
  | .number left, .number right => Ord.compare left right == .eq
  | left, right => left == right

/-- The order of two values with null before every other value. -/
def compareNullsFirst : Value → Value → Option Ordering
  | .null, .null => some .eq
  | .null, _ => some .lt
  | _, .null => some .gt
  | left, right => left.compare right

end Value

end KeysetPaging
