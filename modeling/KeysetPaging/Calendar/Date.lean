import KeysetPaging.Text.Blank
import KeysetPaging.Text.Numeral

/-!
# Calendar dates

A date of the proleptic Gregorian calendar, with years from -262143 to 262142.
The invariant that the day exists in its month is part of the type, so every
date has a successor and a predecessor up to the ends of that range.

A date is written with a four-digit year, which takes a sign when it is negative
or needs more digits.  Reading is more liberal: month and day may have one
digit, the year may have fewer than four, and white space may stand before each
of the three numbers.
-/

namespace KeysetPaging

namespace Calendar

/-- Every fourth year is a leap year, save centuries not divisible by 400. -/
def isLeapYear (year : Int) : Bool :=
  year % 4 == 0 && (year % 100 != 0 || year % 400 == 0)

/-- The length of a month, numbered from one. -/
def daysInMonth (year : Int) (month : Nat) : Nat :=
  if month = 2 then (if isLeapYear year then 29 else 28)
  else if month = 4 ∨ month = 6 ∨ month = 9 ∨ month = 11 then 30
  else 31

end Calendar

structure Date where
  year : Int
  month : Nat
  day : Nat
  year_range : -262143 ≤ year ∧ year ≤ 262142
  month_range : 1 ≤ month ∧ month ≤ 12
  day_range : 1 ≤ day ∧ day ≤ Calendar.daysInMonth year month
deriving DecidableEq

namespace Date

instance : Ord Date :=
  ⟨fun left right =>
    (compare left.year right.year).then <|
      (compare left.month right.month).then (compare left.day right.day)⟩

/-- The date with the given year, month and day, if there is one. -/
def ofParts? (year : Int) (month day : Nat) : Option Date :=
  if valid : (-262143 ≤ year ∧ year ≤ 262142) ∧ (1 ≤ month ∧ month ≤ 12) ∧
      (1 ≤ day ∧ day ≤ Calendar.daysInMonth year month) then
    some ⟨year, month, day, valid.1, valid.2.1, valid.2.2⟩
  else none

def next? (date : Date) : Option Date :=
  if date.day < Calendar.daysInMonth date.year date.month then
    ofParts? date.year date.month (date.day + 1)
  else if date.month < 12 then ofParts? date.year (date.month + 1) 1
  else ofParts? (date.year + 1) 1 1

def previous? (date : Date) : Option Date :=
  if 1 < date.day then ofParts? date.year date.month (date.day - 1)
  else if 1 < date.month then
    ofParts? date.year (date.month - 1)
      (Calendar.daysInMonth date.year (date.month - 1))
  else ofParts? (date.year - 1) 12 31

def yearText (year : Int) : List Char :=
  if year < 0 then '-' :: Text.padded 4 year.natAbs
  else if 9999 < year then '+' :: Text.digits year.natAbs
  else Text.padded 4 year.natAbs

def spelling (date : Date) : List Char :=
  yearText date.year ++
    '-' :: (Text.padded 2 date.month ++ '-' :: Text.padded 2 date.day)

/-- A year at the front of a text: at most four digits, or a sign and any
number of digits. -/
def readYear? (text : List Char) : Option (Int × List Char) :=
  match text with
  | '-' :: rest =>
      (Text.readNumber? rest.length rest).map fun (n, rest) => (-(n : Int), rest)
  | '+' :: rest =>
      (Text.readNumber? rest.length rest).map fun (n, rest) => ((n : Int), rest)
  | _ => (Text.readNumber? 4 text).map fun (n, rest) => ((n : Int), rest)

def ofText? (text : List Char) : Option Date := do
  let (year, rest) ← readYear? (Text.trimStart text)
  let rest ← Text.expect? '-' rest
  let (month, rest) ← Text.readNumber? 2 (Text.trimStart rest)
  let rest ← Text.expect? '-' rest
  let (day, rest) ← Text.readNumber? 2 (Text.trimStart rest)
  if rest.isEmpty then ofParts? year month day else none

end Date

end KeysetPaging
