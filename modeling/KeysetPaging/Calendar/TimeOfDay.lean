import KeysetPaging.Text.Blank
import KeysetPaging.Text.Numeral

/-!
# Times of day

A time of day has nanosecond precision.  A leap second is the second 59 with a
thousand million nanoseconds or more: it is written as second 60, comes after
every other part of its minute, and may follow any minute of the day.
-/

namespace KeysetPaging

/-- A time of day.  Only second 59 may last longer than a second. -/
structure TimeOfDay where
  hour : Nat
  minute : Nat
  second : Nat
  nanosecond : Nat
  hour_lt : hour < 24
  minute_lt : minute < 60
  second_lt : second < 60
  nanosecond_lt : nanosecond < 1000000000 ∨
    (second = 59 ∧ nanosecond < 2000000000)
deriving DecidableEq

namespace TimeOfDay

instance : Ord TimeOfDay :=
  ⟨fun left right =>
    (compare left.hour right.hour).then <|
      (compare left.minute right.minute).then <|
        (compare left.second right.second).then
          (compare left.nanosecond right.nanosecond)⟩

/-- The time with the given parts, where second 60 stands for a leap second. -/
def ofParts? (hour minute second nanosecond : Nat) : Option TimeOfDay :=
  if valid : hour < 24 ∧ minute < 60 ∧ nanosecond < 1000000000 then
    if regular : second < 60 then
      some ⟨hour, minute, second, nanosecond,
        valid.1, valid.2.1, regular, .inl valid.2.2⟩
    else if second = 60 then
      some ⟨hour, minute, 59, 1000000000 + nanosecond,
        valid.1, valid.2.1, by decide, .inr ⟨rfl, by omega⟩⟩
    else none
  else none

def isLeap (time : TimeOfDay) : Bool :=
  1000000000 ≤ time.nanosecond

/-- The spelling of a fraction of a second: none, or three, six or nine
digits, the fewest that are exact. -/
def fractionText (nanosecond : Nat) : List Char :=
  if nanosecond = 0 then []
  else if nanosecond % 1000000 = 0 then
    '.' :: Text.padded 3 (nanosecond / 1000000)
  else if nanosecond % 1000 = 0 then '.' :: Text.padded 6 (nanosecond / 1000)
  else '.' :: Text.padded 9 nanosecond

def spelling (time : TimeOfDay) : List Char :=
  let second := if time.isLeap then 60 else time.second
  Text.padded 2 time.hour ++ ':' :: (Text.padded 2 time.minute ++
    ':' :: (Text.padded 2 second ++ fractionText (time.nanosecond % 1000000000)))

/-- A fraction of a second at the front of a text.  Digits after the ninth are
skipped. -/
def readFraction? : List Char → Option (Nat × List Char)
  | '.' :: rest =>
      let front := rest.takeWhile Char.isDigit
      if front.isEmpty then none
      else
        let nine := front.take 9
        some (Text.digitsValue (nine ++ List.replicate (9 - nine.length) '0'),
          rest.drop front.length)
  | text => some (0, text)

/-- The time a text spells.  The seconds, and with them the fraction, may be
left out, and white space may stand before each number. -/
def ofText? (text : List Char) : Option TimeOfDay := do
  let (hour, rest) ← Text.readNumber? 2 (Text.trimStart text)
  let rest ← Text.expect? ':' rest
  let (minute, rest) ← Text.readNumber? 2 (Text.trimStart rest)
  if rest.isEmpty then ofParts? hour minute 0 0
  else
    let rest ← Text.expect? ':' rest
    let (second, rest) ← Text.readNumber? 2 (Text.trimStart rest)
    let (nanosecond, rest) ← readFraction? rest
    if rest.isEmpty then ofParts? hour minute second nanosecond else none

end TimeOfDay

end KeysetPaging
