import KeysetPaging.Decimal.Text

/-!
# Fixed-point numbers of 96 bits

A number bound to a decimal column has at most 28 decimals and a coefficient
below `2 ^ 96`.  A number that has more decimals is rounded half away from
zero, and one whose digits do not fit loses decimals until they do.  Numbers
whose integer part does not fit are refused, and so are those too small for
their leading digit to be a decimal at all.

Very small numbers are written with an exponent, and are rounded twice: first
the digits before the exponent, with the point after the leading one, and then
the decimals that are left when the exponent has moved the point.

Trailing zeros are taken off first, so the outcome depends on the value alone.
-/

namespace KeysetPaging.Decimal

/-- A magnitude without trailing zeros, and the scale it then has.  The first
argument bounds the zeros that may be taken off. -/
def stripZeros : Nat → Nat → Int → Nat × Int
  | 0, n, scale => (n, scale)
  | fuel + 1, n, scale =>
      if n = 0 then (0, 0)
      else if n % 10 = 0 then stripZeros fuel (n / 10) (scale - 1)
      else (n, scale)

/-- The shortest coefficient and scale of the magnitude of a number. -/
def normalForm (number : Decimal) : Nat × Int :=
  let n := number.coefficient.natAbs
  stripZeros (digitCount n) n number.scale.toInt

/-- Whether a magnitude is so small, with more than five zeros after the point,
that it is written with a negative exponent. -/
def isVerySmall (n : Nat) (scale : Int) : Bool :=
  5 < scale - digitCount n

/-- The negative exponent of a very small magnitude: the place of its leading
digit after the point. -/
def smallExponent (n : Nat) (scale : Int) : Nat :=
  (scale - digitCount n + 1).toNat

/-- The spelling of a number by its shortest coefficient.  Very small numbers
are written with a negative exponent, and whole numbers with many trailing
zeros with a positive one. -/
def shortText (number : Decimal) : List Char :=
  let (n, scale) := number.normalForm
  let digits := Text.digits n
  let magnitude :=
    if isVerySmall n scale then
      let decimals := digits.drop 1
      let point := if decimals.isEmpty then [] else '.' :: decimals
      digits.take 1 ++ point ++ 'E' :: '-' ::
        Text.digits (smallExponent n scale)
    else if -scale > 15 then
      digits ++ 'e' :: '+' :: Text.digits (-scale).toNat
    else magnitudeText n scale
  if number.coefficient < 0 then '-' :: magnitude else magnitude

def maxCoefficient : Nat :=
  Nat.pow 2 96 - 1

def maxPlaces : Nat := 28

/-- The decimals of `n * 10 ^ (-scale)` that 96 bits hold, at most `places`. -/
def fittingPlaces (n scale : Nat) : Nat → Option Nat
  | 0 => if n / Nat.pow 10 scale ≤ maxCoefficient then some 0 else none
  | places + 1 =>
      if n * Nat.pow 10 (places + 1) / Nat.pow 10 scale ≤ maxCoefficient then
        some (places + 1)
      else fittingPlaces n scale places

/-- The coefficient of a quotient `n / 10 ^ scale` at the given number of
decimals, rounded half up.  A rounding that leaves 96 bits takes one more
decimal off, and is refused when there is none. -/
def roundPlaces? (n scale places : Nat) : Option (Nat × Nat) :=
  let divisor := Nat.pow 10 scale
  let rounded := (2 * (n * Nat.pow 10 places) + divisor) / (2 * divisor)
  if rounded ≤ maxCoefficient then some (rounded, places)
  else match places with
    | 0 => none
    | fewer + 1 => some ((rounded + 5) / 10, fewer)

/-- The coefficient and the decimals, as many as fit, of a quotient
`n / 10 ^ scale`. -/
def roundFitting? (n scale : Nat) : Option (Nat × Nat) :=
  (fittingPlaces n scale (min scale maxPlaces)).bind (roundPlaces? n scale)

/-- The decimals that are allowed, of a coefficient that may have more, rounded
half up. -/
def limitPlaces (n places : Nat) : Nat × Nat :=
  let surplus := Nat.pow 10 (places - maxPlaces)
  ((2 * n + surplus) / (2 * surplus), min places maxPlaces)

theorem limitPlaces_of_le {n places : Nat} (within : places ≤ maxPlaces) :
    limitPlaces n places = (n, places) := by
  have unit : Nat.pow 10 (places - maxPlaces) = 1 := by
    rw [Nat.sub_eq_zero_of_le within, Nat.pow_eq, Nat.pow_zero]
  have kept : (2 * n + 1) / (2 * 1) = n := by omega
  simp only [limitPlaces, unit, kept, Nat.min_eq_left within]

/-- The 96-bit magnitude of `n * 10 ^ (-scale)`, as coefficient and decimals. -/
def fixedMagnitude? (n : Nat) (scale : Int) : Option (Nat × Nat) :=
  if scale ≤ 0 then
    if digitCount n - scale > 30 then none
    else
      let whole := n * Nat.pow 10 (-scale).toNat
      if whole ≤ maxCoefficient then some (whole, 0) else none
  else if isVerySmall n scale then
    let exponent := smallExponent n scale
    if exponent > maxPlaces then none
    else
      (roundFitting? n (digitCount n - 1)).map fun (coefficient, places) =>
        limitPlaces coefficient (places + exponent)
  else roundFitting? n scale.toNat

/-- The fixed-point number a number is bound as. -/
def toFixed96? (number : Decimal) : Option Decimal :=
  let (n, scale) := number.normalForm
  (fixedMagnitude? n scale).map fun (coefficient, places) =>
    ⟨if number.coefficient < 0 then -coefficient else coefficient,
      Int64.ofNat places⟩

end KeysetPaging.Decimal
