import KeysetPaging.Text.Numeral

/-!
# Decimal numbers

A number is kept as it was written: an integer coefficient and a scale, the
count of its decimals.  `1.50` and `1.5` differ in representation and agree in
value, so equality of numbers is decided by `compare`, never by comparing
representations.

Scales are 64-bit and reach far beyond any number that could be written out.
The order therefore compares the positions of the leading digits first, and
aligns two coefficients only when those positions agree; the power of ten it
then needs is bounded by the lengths of the coefficients.
-/

namespace KeysetPaging

/-- The number `coefficient * 10 ^ (-scale)`. -/
structure Decimal where
  coefficient : Int
  scale : Int64
deriving DecidableEq

namespace Decimal

def ofInt64 (n : Int64) : Decimal :=
  ⟨n.toInt, 0⟩

def digitCount (n : Nat) : Nat :=
  (Text.digits n).length

/-- The place of the leading digit: `n * 10 ^ (-scale)` lies below `10` to this
power, and not below the power before it. -/
def leadingPlace (n : Nat) (scale : Int64) : Int :=
  digitCount n - scale.toInt

/-- The order of two positive numbers, given by coefficient and scale. -/
def compareMagnitude (left : Nat) (leftScale : Int64)
    (right : Nat) (rightScale : Int64) : Ordering :=
  (Ord.compare (leadingPlace left leftScale)
      (leadingPlace right rightScale)).then <|
    let shift := rightScale.toInt - leftScale.toInt
    Ord.compare (left * Nat.pow 10 shift.toNat)
      (right * Nat.pow 10 (-shift).toNat)

def compare (left right : Decimal) : Ordering :=
  (Ord.compare left.coefficient.sign right.coefficient.sign).then <|
    if left.coefficient = 0 then .eq
    else if 0 < left.coefficient then
      compareMagnitude left.coefficient.natAbs left.scale
        right.coefficient.natAbs right.scale
    else
      compareMagnitude right.coefficient.natAbs right.scale
        left.coefficient.natAbs left.scale

instance : Ord Decimal := ⟨Decimal.compare⟩

/-- Whether the number has no fractional part.  A coefficient shorter than its
scale can only be an integer when it is zero. -/
def isInteger (number : Decimal) : Bool :=
  let places := number.scale.toInt
  if places ≤ 0 then true
  else if digitCount number.coefficient.natAbs < places then
    number.coefficient == 0
  else number.coefficient.natAbs % Nat.pow 10 places.toNat == 0

/-- The number with its fraction cut off, if that is a signed 64-bit integer.
No 64-bit integer has more than 19 digits. -/
def truncate? (number : Decimal) : Option Int64 :=
  let places := number.scale.toInt
  let count := digitCount number.coefficient.natAbs
  if number.coefficient = 0 then some 0
  else if places ≤ 0 then
    if count - places > 19 then none
    else Text.int64OfInt? (number.coefficient * Int.pow 10 (-places).toNat)
  else if count < places then some 0
  else Text.int64OfInt? (number.coefficient.tdiv (Int.pow 10 places.toNat))

end Decimal

end KeysetPaging
