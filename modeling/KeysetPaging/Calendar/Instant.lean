import KeysetPaging.Calendar.Date
import KeysetPaging.Calendar.TimeOfDay

/-!
# Instants

An instant is a date and a time of day in UTC.  It is read from a date, a time
and an offset in whole minutes, and moved to UTC; since the offset never
touches the seconds, a leap second stays one.
-/

namespace KeysetPaging

structure Instant where
  date : Date
  time : TimeOfDay
deriving DecidableEq

namespace Instant

instance : Ord Instant :=
  ⟨fun left right =>
    (compare left.date right.date).then (compare left.time right.time)⟩

/-- A time of day at another minute of the same day. -/
def atMinute (time : TimeOfDay) (minuteOfDay : Nat) : TimeOfDay :=
  { time with
    hour := minuteOfDay / 60 % 24
    minute := minuteOfDay % 60
    hour_lt := by omega
    minute_lt := by omega }

/-- The instant of a local date and time, `offset` minutes ahead of UTC. -/
def ofLocal? (date : Date) (time : TimeOfDay) (offset : Int) : Option Instant :=
  let minute := (time.hour * 60 + time.minute : Nat) - offset
  if minute < 0 then
    date.previous?.map fun date => ⟨date, atMinute time (minute + 1440).toNat⟩
  else if minute < 1440 then some ⟨date, atMinute time minute.toNat⟩
  else date.next?.map fun date => ⟨date, atMinute time (minute - 1440).toNat⟩

def spelling (instant : Instant) : List Char :=
  instant.date.spelling ++ 'T' :: (instant.time.spelling ++ ['Z'])

/-- A two-digit hour and a two-digit minute of an offset, in minutes.  The
offset must be shorter than a day. -/
def readOffset? (text : List Char) : Option (Int × List Char) := do
  let (hours, rest) ← Text.readFixed? 2 text
  let rest ← Text.expect? ':' rest
  let (minutes, rest) ← Text.readFixed? 2 rest
  if minutes < 60 ∧ hours < 24 then some ((hours * 60 + minutes : Nat), rest)
  else none

/-- The offset from UTC at the end of a date-time, in minutes.  The minus sign
may also be written as U+2212. -/
def offset? : List Char → Option Int
  | ['Z'] => some 0
  | ['z'] => some 0
  | sign :: text => do
      let (minutes, rest) ← readOffset? text
      if !rest.isEmpty then none
      else if sign = '+' then some minutes
      else if sign = '-' ∨ sign = '\u2212' then some (-minutes)
      else none
  | [] => none

/-- The instant a date-time text denotes.  Every number has its full width, and
the date and the time are parted by a `T` of either case or a space. -/
def ofText? (text : List Char) : Option Instant := do
  let (year, rest) ← Text.readFixed? 4 text
  let rest ← Text.expect? '-' rest
  let (month, rest) ← Text.readFixed? 2 rest
  let rest ← Text.expect? '-' rest
  let (day, rest) ← Text.readFixed? 2 rest
  let rest ← match rest with
    | c :: rest => if c = 'T' ∨ c = 't' ∨ c = ' ' then some rest else none
    | [] => none
  let (hour, rest) ← Text.readFixed? 2 rest
  let rest ← Text.expect? ':' rest
  let (minute, rest) ← Text.readFixed? 2 rest
  let rest ← Text.expect? ':' rest
  let (second, rest) ← Text.readFixed? 2 rest
  let (nanosecond, rest) ← TimeOfDay.readFraction? rest
  let offset ← offset? rest
  let date ← Date.ofParts? year month day
  let time ← TimeOfDay.ofParts? hour minute second nanosecond
  ofLocal? date time offset

end Instant

end KeysetPaging
