import KeysetPaging.Decimal.Basic
import KeysetPaging.Text.Cut

/-!
# Decimal text

Numbers are written in plain positional notation, with exactly the decimals of
their scale.  They are read in a wider notation: an optional sign, digits with
at most one point, underscores between digits, and an optional exponent, whose
value is subtracted from the scale.
-/

namespace KeysetPaging.Decimal

/-- The positional digits of a magnitude with the given scale. -/
def magnitudeText (n : Nat) (scale : Int) : List Char :=
  let digits := Text.digits n
  if scale ≤ 0 then digits ++ List.replicate (-scale).toNat '0'
  else
    let places := scale.toNat
    let filled := digits.leftpad (places + 1) '0'
    filled.take (filled.length - places) ++
      '.' :: filled.drop (filled.length - places)

def spelling (number : Decimal) : List Char :=
  let magnitude := magnitudeText number.coefficient.natAbs number.scale.toInt
  if number.coefficient < 0 then '-' :: magnitude else magnitude

/-- The digits of a coefficient.  The first character must be a digit, and
underscores after it are skipped. -/
def magnitude? : List Char → Option Nat
  | [] => none
  | c :: rest =>
      if c = '_' then none
      else Text.natural? ((c :: rest).filter (· ≠ '_'))

/-- A coefficient after its optional sign.  A minus directly before a plus is
refused. -/
def coefficient? : List Char → Option Int
  | '-' :: '+' :: _ => none
  | '-' :: rest => (magnitude? rest).map fun n => -(n : Int)
  | '+' :: rest => (magnitude? rest).map fun n => (n : Int)
  | text => (magnitude? text).map fun n => (n : Int)

/-- The coefficient text and the count of decimals of a number text without
exponent.  A point at the very end is dropped; otherwise the characters after
the first point are the decimals, underscores not counted. -/
def splitPoint (text : List Char) : List Char × Nat :=
  match Text.cutAt '.' text with
  | (whole, none) => (whole, 0)
  | (whole, some []) => (whole, 0)
  | (whole, some decimals) =>
      (whole ++ decimals, (decimals.filter (· ≠ '_')).length)

/-- The parts of a number text before and after the exponent mark. -/
def splitExponent (text : List Char) : List Char × Option (List Char) :=
  Text.cutWhere (fun c => c == 'e' || c == 'E') text

def ofText? (text : List Char) : Option Decimal :=
  let (base, exponentText) := splitExponent text
  let exponent := match exponentText with
    | none => some 0
    | some digits => Text.integer? digits
  let (coefficientText, decimals) := splitPoint base
  exponent.bind fun exponent =>
    (coefficient? coefficientText).bind fun coefficient =>
      (Text.int64OfInt? (decimals - exponent)).map fun scale =>
        ⟨coefficient, scale⟩

end KeysetPaging.Decimal
