import KeysetPaging.Decimal.Basic

/-!
# Nearest binary64 numbers

A number bound to a floating-point column is rounded to a 64-bit binary
floating-point number, of which only the bit pattern matters here.  Rounding is
to nearest, ties to even, and is done in exact natural-number arithmetic: a
quotient is scaled to the precision its magnitude allows and rounded once.

Not all digits take part.  An integer is rounded as it stands; any other number
is first shortened to about twenty-five digits, those that fall away being cut
off, so a number just above the middle between two neighbours may count as the
middle.  A power of ten that multiplies the digits is itself rounded.
-/

namespace KeysetPaging.Decimal

/-- The quotient rounded to the nearest integer, a tie to the even one. -/
def roundQuotient (dividend divisor : Nat) : Nat :=
  let quotient := dividend / divisor
  let twice := 2 * (dividend % divisor)
  if twice < divisor then quotient
  else if divisor < twice then quotient + 1
  else quotient + quotient % 2

/-- The exponent of the greatest power of two not above a positive quotient. -/
def binaryExponent (dividend divisor : Nat) : Int :=
  let guess : Int := (Nat.log2 dividend : Int) - Nat.log2 divisor
  if divisor * Nat.pow 2 guess.toNat ≤ dividend * Nat.pow 2 (-guess).toNat then
    guess
  else guess - 1

def infinityBits : Nat :=
  2047 * Nat.pow 2 52

/-- The bit pattern of the non-negative binary64 number nearest to a quotient.
The unit of the last place is `2 ^ unit`; the leading bit of a normal number
carries into the exponent field, so one sum covers the subnormal, the normal
and the rounded-up case. -/
def quotientBits (dividend divisor : Nat) : Nat :=
  if dividend = 0 then 0
  else
    let unit := max (binaryExponent dividend divisor - 52) (-1074)
    let rounded :=
      roundQuotient (dividend * Nat.pow 2 (-unit).toNat)
        (divisor * Nat.pow 2 unit.toNat)
    min ((unit + 1074).toNat * Nat.pow 2 52 + rounded) infinityBits

def roundTo53Bits (n : Nat) : Nat :=
  let unit := Nat.log2 n - 52
  roundQuotient n (Nat.pow 2 unit) * Nat.pow 2 unit

/-- The product of a start and a power, by repeated squaring, with every product
rounded to 53 bits. -/
def roundedPower (start base exponent : Nat) : Nat :=
  if exponent = 0 then start
  else
    let start :=
      if exponent % 2 = 1 then roundTo53Bits (start * base) else start
    roundedPower start (roundTo53Bits (base * base)) (exponent / 2)
termination_by exponent

/-- The digits that a coefficient is taken to have, from its length in bits: the
zeros of the greatest power of ten not above twice the least power of two above
it.  Among the first coefficients of a length they may be one too few. -/
def estimatedDigits (coefficient : Nat) : Nat :=
  digitCount (Nat.pow 2 (Nat.log2 coefficient + 2)) - 1

/-- The digits cut off a coefficient: nineteen at a time, as long as
twenty-five remain. -/
def surplusDigits (coefficient : Nat) : Nat :=
  19 * ((estimatedDigits coefficient - 25) / 19)

/-- The scale above which the magnitude of a number counts as infinite. -/
def maxBinaryScale : Int :=
  Int.pow 2 31 - 1

/-- The bit pattern of the magnitude of a nonzero number.  Without decimals the
coefficient is rounded; otherwise its surplus digits are cut off first.  If
decimals remain the quotient is rounded; if not, the coefficient and the power
of ten are rounded, and then their product.  A number whose leading digit lies
below `10 ^ (-400)` is too small for any bit. -/
def magnitudeBits (coefficient : Nat) (scale : Int64) : Nat :=
  if scale = 0 then quotientBits coefficient 1
  else
    let surplus := surplusDigits coefficient
    let short := coefficient / Nat.pow 10 surplus
    let places := scale.toInt - surplus
    let leading := leadingPlace coefficient scale
    if maxBinaryScale < places ∨ 400 < leading then infinityBits
    else if leading < -400 then 0
    else if 0 < places then quotientBits short (Nat.pow 10 places.toNat)
    else
      quotientBits
        (roundTo53Bits short * roundedPower 1 10 (-places).toNat) 1

/-- The bit pattern of the binary64 number a number is bound as.  Zero is
positive; every other number keeps its sign, also when it becomes zero. -/
def toBinary64 (number : Decimal) : Nat :=
  if number.coefficient = 0 then 0
  else
    magnitudeBits number.coefficient.natAbs number.scale +
      (if number.coefficient < 0 then Nat.pow 2 63 else 0)

end KeysetPaging.Decimal
