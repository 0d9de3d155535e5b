/-!
# Numerals

Digit texts and the integers they denote.  Natural numbers are written by
`Nat.toDigits` and read back by `Nat.ofDigitChars`; this module adds the parts
around them: padding to a fixed width, signs, and the ranges of 64-bit
integers.
-/

namespace KeysetPaging.Text

def digits (n : Nat) : List Char :=
  Nat.toDigits 10 n

/-- The decimal digits of a natural number, padded with zeros on the left. -/
def padded (width n : Nat) : List Char :=
  (digits n).leftpad width '0'

def digitsValue (text : List Char) : Nat :=
  Nat.ofDigitChars 10 text 0

/-- A nonempty text of decimal digits. -/
def natural? (text : List Char) : Option Nat :=
  if !text.isEmpty && text.all Char.isDigit then some (digitsValue text) else none

/-- Decimal digits after an optional sign. -/
def integer? : List Char → Option Int
  | '-' :: rest => (natural? rest).map fun n => -(n : Int)
  | '+' :: rest => (natural? rest).map fun n => (n : Int)
  | text => (natural? text).map fun n => (n : Int)

/-- An integer as a signed 64-bit number, if it is in range. -/
def int64OfInt? (n : Int) : Option Int64 :=
  if lower : Int64.minValue.toInt ≤ n then
    if upper : n ≤ Int64.maxValue.toInt then some (Int64.ofIntLE n lower upper)
    else none
  else none

/-- A signed 64-bit number in decimal digits, with an optional sign. -/
def int64? (text : List Char) : Option Int64 :=
  (integer? text).bind int64OfInt?

/-- An unsigned 64-bit number in decimal digits, with an optional plus sign. -/
def unsigned64? (text : List Char) : Option Nat :=
  let unsigned := match text with
    | '+' :: rest => rest
    | _ => text
  (natural? unsigned).filter (· < Nat.pow 2 64)

def integerText (n : Int) : List Char :=
  if n < 0 then '-' :: digits n.natAbs else digits n.natAbs

/-- The digits at the front of a text, at most `limit` of them, and the rest. -/
def takeDigits (limit : Nat) (text : List Char) : List Char × List Char :=
  let front := (text.takeWhile Char.isDigit).take limit
  (front, text.drop front.length)

/-- A number of one to `limit` digits at the front of a text, and the rest. -/
def readNumber? (limit : Nat) (text : List Char) : Option (Nat × List Char) :=
  let (front, rest) := takeDigits limit text
  if front.isEmpty then none else some (digitsValue front, rest)

/-- A number of exactly `count` digits at the front of a text, and the rest. -/
def readFixed? (count : Nat) (text : List Char) : Option (Nat × List Char) :=
  let (front, rest) := takeDigits count text
  if front.length = count then some (digitsValue front, rest) else none

/-- The text after an expected first character. -/
def expect? (expected : Char) : List Char → Option (List Char)
  | [] => none
  | c :: rest => if c = expected then some rest else none

theorem takeDigits_append (limit : Nat) (text : List Char) :
    (takeDigits limit text).1 ++ (takeDigits limit text).2 = text := by
  have front : (text.takeWhile Char.isDigit).take limit <+: text :=
    (List.take_prefix _ _).trans (List.takeWhile_prefix _)
  simpa [takeDigits] using List.prefix_iff_eq_append.mp front

@[simp] theorem digitsValue_digits (n : Nat) : digitsValue (digits n) = n :=
  Nat.ofDigitChars_ten_toDigits

theorem int64OfInt?_toInt (n : Int64) : int64OfInt? n.toInt = some n := by
  simp only [int64OfInt?, n.minValue_le_toInt, n.toInt_le, dite_true]
  exact congrArg some (Int64.toInt_inj.mp Int64.toInt_ofIntLE)

end KeysetPaging.Text
