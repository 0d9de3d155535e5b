import KeysetPaging.Calendar.Instant
import KeysetPaging.Proofs.Text.Numeral

/-!
# What texts are dates and times

Dates and times of day are read with white space before each number, dates with
a sign before the year, and times with a fraction of any length.  Whatever is
accepted consists of digits, white space and the marks of its kind: hyphens and
one sign in a date, colons and a point in a time of day.
-/

namespace KeysetPaging

namespace Text

/-- A number after white space. -/
def IsSpacedNumber (text : List Char) : Prop :=
  ∀ c ∈ text, isBlank c = true ∨ c.isDigit = true

theorem exists_of_readNumber?_trimStart {limit n : Nat}
    {text rest : List Char}
    (read : readNumber? limit (trimStart text) = some (n, rest)) :
    ∃ front, text = front ++ rest ∧ IsSpacedNumber front := by
  obtain ⟨blanks, whole, isBlanks⟩ := exists_of_trimStart text
  obtain ⟨digits, trimmed, _, isDigits⟩ := exists_of_readNumber? read
  refine ⟨blanks ++ digits, ?_, ?_⟩
  · rw [List.append_assoc, ← trimmed, ← whole]
  · intro c member
    rcases List.mem_append.mp member with blank | digit
    · exact .inl (isBlanks c blank)
    · exact .inr (isDigits c digit)

namespace IsSpacedNumber

theorem not_mem {text : List Char} (spaced : IsSpacedNumber text) {c : Char}
    (visible : isBlank c = false) (notDigit : c.isDigit = false) :
    c ∉ text := by
  intro member
  rcases spaced c member with blank | digit
  · rw [visible] at blank
    cases blank
  · rw [notDigit] at digit
    cases digit

theorem count_hyphen {text : List Char} (spaced : IsSpacedNumber text) :
    text.count '-' = 0 :=
  List.count_eq_zero.mpr (spaced.not_mem (by decide) (by decide))

end IsSpacedNumber

end Text

namespace Date

theorem exists_of_readYear? {text rest : List Char} {year : Int}
    (read : readYear? text = some (year, rest)) :
    ∃ sign front, text = sign ++ (front ++ rest) ∧ Text.IsSign sign ∧
      ∀ c ∈ front, c.isDigit = true := by
  unfold readYear? at read
  split at read
  · obtain ⟨_, number, same⟩ := Option.map_eq_some_iff.mp read
    cases same
    obtain ⟨front, whole, _, isDigits⟩ := Text.exists_of_readNumber? number
    exact ⟨['-'], front, congrArg ('-' :: ·) whole, .inr (.inl rfl), isDigits⟩
  · obtain ⟨_, number, same⟩ := Option.map_eq_some_iff.mp read
    cases same
    obtain ⟨front, whole, _, isDigits⟩ := Text.exists_of_readNumber? number
    exact ⟨['+'], front, congrArg ('+' :: ·) whole, .inr (.inr rfl), isDigits⟩
  · obtain ⟨_, number, same⟩ := Option.map_eq_some_iff.mp read
    cases same
    obtain ⟨front, whole, _, isDigits⟩ := Text.exists_of_readNumber? number
    exact ⟨[], front, whole, .inl rfl, isDigits⟩

/-- A date text is a year with an optional sign, a month and a day, parted by
hyphens. -/
theorem exists_of_ofText? {text : List Char} {date : Date}
    (read : ofText? text = some date) :
    ∃ blanks sign year month day,
      text = blanks ++ (sign ++ (year ++ '-' :: (month ++ '-' :: day))) ∧
        Text.IsSpacedNumber blanks ∧ Text.IsSign sign ∧
          Text.IsSpacedNumber year ∧ Text.IsSpacedNumber month ∧
            Text.IsSpacedNumber day := by
  simp only [ofText?, Option.bind_eq_bind, Option.bind_eq_some_iff] at read
  obtain ⟨⟨_, yearRest⟩, readYear, monthText, hyphen, ⟨_, monthRest⟩,
    readMonth, dayText, second, ⟨_, dayRest⟩, readDay, ending⟩ := read
  obtain ⟨blanks, whole, isBlanks⟩ := Text.exists_of_trimStart text
  obtain ⟨sign, year, trimmed, isSign, isDigits⟩ := exists_of_readYear? readYear
  obtain ⟨month, monthPart, spacedMonth⟩ :=
    Text.exists_of_readNumber?_trimStart readMonth
  obtain ⟨day, dayPart, spacedDay⟩ :=
    Text.exists_of_readNumber?_trimStart readDay
  have afterYear : yearRest = '-' :: monthText :=
    Text.expect?_eq_some_iff.mp hyphen
  have afterMonth : monthRest = '-' :: dayText :=
    Text.expect?_eq_some_iff.mp second
  have nothing : dayRest = [] := by
    cases dayRest with
    | nil => rfl
    | cons c rest => cases ending
  refine ⟨blanks, sign, year, month, day, ?_, fun c member =>
    .inl (isBlanks c member), isSign, fun c member => .inr (isDigits c member),
    spacedMonth, spacedDay⟩
  rw [nothing, List.append_nil] at dayPart
  rw [whole, trimmed, afterYear, monthPart, afterMonth, dayPart]

/-- The characters of a date. -/
def IsMark (c : Char) : Prop :=
  (Text.isBlank c = true ∨ c.isDigit = true) ∨ c = '-' ∨ c = '+'

instance (c : Char) : Decidable (IsMark c) :=
  inferInstanceAs (Decidable (_ ∨ _))

theorem mem_of_ofText? {text : List Char} {date : Date}
    (read : ofText? text = some date) {c : Char} (member : c ∈ text) :
    IsMark c := by
  obtain ⟨blanks, sign, year, month, day, whole, spaced, isSign, spacedYear,
    spacedMonth, spacedDay⟩ := exists_of_ofText? read
  simp only [whole, List.mem_append, List.mem_cons] at member
  rcases member with inBlanks | inSign | inYear | hyphen | inMonth | hyphen |
    inDay
  · exact .inl (spaced c inBlanks)
  · exact .inr (isSign.mem inSign)
  · exact .inl (spacedYear c inYear)
  · exact .inr (.inl hyphen)
  · exact .inl (spacedMonth c inMonth)
  · exact .inr (.inl hyphen)
  · exact .inl (spacedDay c inDay)

/-- Two hyphens part a date text, and a third one is a sign. -/
theorem count_hyphen_of_ofText? {text : List Char} {date : Date}
    (read : ofText? text = some date) :
    2 ≤ text.count '-' ∧ text.count '-' ≤ 3 := by
  obtain ⟨blanks, sign, year, month, day, whole, spaced, isSign, spacedYear,
    spacedMonth, spacedDay⟩ := exists_of_ofText? read
  have signs := isSign.count_hyphen_le
  rw [whole, List.count_append, List.count_append, List.count_append,
    List.count_cons_self, List.count_append, List.count_cons_self,
    spaced.count_hyphen, spacedYear.count_hyphen, spacedMonth.count_hyphen,
    spacedDay.count_hyphen]
  omega

theorem ofText?_eq_none {text : List Char} (few : text.count '-' < 2) :
    ofText? text = none := by
  cases read : ofText? text with
  | none => rfl
  | some date =>
      have enough := (count_hyphen_of_ofText? read).1
      omega

theorem hyphen_mem_of_ofText? {text : List Char} {date : Date}
    (read : ofText? text = some date) : '-' ∈ text := by
  obtain ⟨_, _, _, _, _, rfl, _⟩ := exists_of_ofText? read
  simp

theorem ofText?_eq_none_of_no_hyphen {text : List Char} (absent : '-' ∉ text) :
    ofText? text = none := by
  apply ofText?_eq_none
  rw [List.count_eq_zero.mpr absent]
  decide

end Date

namespace TimeOfDay

theorem exists_of_readFraction? {text rest : List Char} {nanosecond : Nat}
    (read : readFraction? text = some (nanosecond, rest)) :
    ∃ front, text = front ++ rest ∧ ∀ c ∈ front, c.isDigit = true ∨ c = '.' := by
  unfold readFraction? at read
  split at read
  · rename_i decimals
    simp only [Option.ite_none_left_eq_some, Option.some.injEq,
      Prod.mk.injEq] at read
    obtain ⟨_, _, rfl⟩ := read
    refine ⟨'.' :: decimals.takeWhile Char.isDigit, ?_, ?_⟩
    · rw [List.cons_append, List.prefix_iff_eq_append.mp
        (List.takeWhile_prefix _)]
    · intro c member
      rcases List.mem_cons.mp member with point | digit
      · exact .inr point
      · exact .inl (List.all_eq_true.mp List.all_takeWhile c digit)
  · cases read
    exact ⟨[], rfl, fun c member => by cases member⟩

/-- The characters of a time of day. -/
def IsMark (c : Char) : Prop :=
  (Text.isBlank c = true ∨ c.isDigit = true) ∨ c = ':' ∨ c = '.'

instance (c : Char) : Decidable (IsMark c) :=
  inferInstanceAs (Decidable (_ ∨ _))

/-- A time text is an hour and, after a colon, minutes alone or with seconds and
their fraction. -/
theorem exists_of_ofText? {text : List Char} {time : TimeOfDay}
    (read : ofText? text = some time) :
    ∃ hour rest, text = hour ++ ':' :: rest ∧ Text.IsSpacedNumber hour ∧
      ∀ c ∈ rest, IsMark c := by
  simp only [ofText?, Option.bind_eq_bind, Option.bind_eq_some_iff] at read
  obtain ⟨⟨_, hourRest⟩, readHour, minuteText, colon, ⟨_, minuteRest⟩,
    readMinute, ending⟩ := read
  obtain ⟨hour, whole, spacedHour⟩ :=
    Text.exists_of_readNumber?_trimStart readHour
  obtain ⟨minute, minutePart, spacedMinute⟩ :=
    Text.exists_of_readNumber?_trimStart readMinute
  have afterHour : hourRest = ':' :: minuteText :=
    Text.expect?_eq_some_iff.mp colon
  refine ⟨hour, minuteText, by rw [whole, afterHour], spacedHour, ?_⟩
  intro c member
  rw [minutePart, List.mem_append] at member
  rcases member with inMinute | inside
  · exact .inl (spacedMinute c inMinute)
  -- Something is left after the minutes, so the seconds are.
  have present : minuteRest.isEmpty = false :=
    List.isEmpty_eq_false_iff.mpr (List.ne_nil_of_mem inside)
  simp only [present, Bool.false_eq_true, if_false, Option.bind_eq_some_iff]
    at ending
  obtain ⟨secondText, colon, ⟨_, secondRest⟩, readSecond, ⟨_, rest⟩, fraction,
    ending⟩ := ending
  obtain ⟨second, secondPart, spacedSecond⟩ :=
    Text.exists_of_readNumber?_trimStart readSecond
  obtain ⟨decimals, (fractionPart : secondRest = decimals ++ rest), isDecimals⟩ :=
    exists_of_readFraction? fraction
  have nothing : rest = [] := by
    cases rest with
    | nil => rfl
    | cons c rest => cases ending
  have afterMinute := Text.expect?_eq_some_iff.mp colon
  rw [nothing, List.append_nil] at fractionPart
  rw [afterMinute, secondPart, fractionPart, List.mem_cons,
    List.mem_append] at inside
  rcases inside with isColon | inSecond | inFraction
  · exact .inr (.inl isColon)
  · exact .inl (spacedSecond c inSecond)
  · rcases isDecimals c inFraction with digit | point
    · exact .inl (.inr digit)
    · exact .inr (.inr point)

theorem mem_of_ofText? {text : List Char} {time : TimeOfDay}
    (read : ofText? text = some time) {c : Char} (member : c ∈ text) :
    IsMark c := by
  obtain ⟨hour, rest, rfl, spacedHour, marks⟩ := exists_of_ofText? read
  rcases List.mem_append.mp member with inHour | inside
  · exact .inl (spacedHour c inHour)
  · rcases List.mem_cons.mp inside with colon | inRest
    · exact .inr (.inl colon)
    · exact marks c inRest

theorem colon_mem_of_ofText? {text : List Char} {time : TimeOfDay}
    (read : ofText? text = some time) : ':' ∈ text := by
  obtain ⟨hour, rest, rfl, _⟩ := exists_of_ofText? read
  simp

theorem ofText?_eq_none {text : List Char} (absent : ':' ∉ text) :
    ofText? text = none := by
  cases read : ofText? text with
  | none => rfl
  | some time => exact absurd (colon_mem_of_ofText? read) absent

end TimeOfDay

namespace Instant

/-- What is read as an instant has a year of four digits, two hyphens, a
separator after the date and a colon after the hour. -/
theorem exists_of_ofText? {text : List Char} {instant : Instant}
    (read : ofText? text = some instant) :
    ∃ year month day separator hour rest,
      text = year ++ '-' :: (month ++ '-' :: (day ++ separator ::
        (hour ++ ':' :: rest))) ∧
        year.length = 4 ∧ (∀ c ∈ year, c.isDigit = true) ∧
          (separator = 'T' ∨ separator = 't' ∨ separator = ' ') := by
  rw [ofText?] at read
  obtain ⟨⟨_, afterYear⟩, readYear, read⟩ := Option.bind_eq_some_iff.mp read
  obtain ⟨monthText, firstHyphen, read⟩ := Option.bind_eq_some_iff.mp read
  obtain ⟨⟨_, afterMonth⟩, readMonth, read⟩ := Option.bind_eq_some_iff.mp read
  obtain ⟨dayText, secondHyphen, read⟩ := Option.bind_eq_some_iff.mp read
  obtain ⟨⟨_, afterDay⟩, readDay, read⟩ := Option.bind_eq_some_iff.mp read
  obtain ⟨year, whole, four, isDigits⟩ := Text.exists_of_readFixed? readYear
  obtain ⟨month, monthPart, _⟩ := Text.exists_of_readFixed? readMonth
  obtain ⟨day, dayPart, _⟩ := Text.exists_of_readFixed? readDay
  have afterYear := Text.expect?_eq_some_iff.mp firstHyphen
  have afterMonth := Text.expect?_eq_some_iff.mp secondHyphen
  cases afterDay with
  | nil => cases read
  | cons separator timeText =>
      by_cases isSeparator : separator = 'T' ∨ separator = 't' ∨ separator = ' '
      · have timed := (if_pos isSeparator).symm.trans read
        obtain ⟨_, same, timed⟩ := Option.bind_eq_some_iff.mp timed
        cases same
        obtain ⟨⟨_, afterHour⟩, readHour, timed⟩ :=
          Option.bind_eq_some_iff.mp timed
        obtain ⟨rest, colon, _⟩ := Option.bind_eq_some_iff.mp timed
        obtain ⟨hour, hourPart, _⟩ := Text.exists_of_readFixed? readHour
        have afterHour := Text.expect?_eq_some_iff.mp colon
        refine ⟨year, month, day, separator, hour, rest, ?_, four, isDigits,
          isSeparator⟩
        rw [whole, afterYear, monthPart, afterMonth, dayPart, hourPart,
          afterHour]
      · cases (if_neg isSeparator).symm.trans read

theorem hyphen_mem_of_ofText? {text : List Char} {instant : Instant}
    (read : ofText? text = some instant) : '-' ∈ text := by
  obtain ⟨_, _, _, _, _, _, rfl, _⟩ := exists_of_ofText? read
  simp

theorem colon_mem_of_ofText? {text : List Char} {instant : Instant}
    (read : ofText? text = some instant) : ':' ∈ text := by
  obtain ⟨_, _, _, _, _, _, rfl, _⟩ := exists_of_ofText? read
  simp

theorem ofText?_eq_none_of_no_hyphen {text : List Char} (absent : '-' ∉ text) :
    ofText? text = none := by
  cases read : ofText? text with
  | none => rfl
  | some instant => exact absurd (hyphen_mem_of_ofText? read) absent

theorem ofText?_eq_none_of_no_colon {text : List Char} (absent : ':' ∉ text) :
    ofText? text = none := by
  cases read : ofText? text with
  | none => rfl
  | some instant => exact absurd (colon_mem_of_ofText? read) absent

theorem head?_of_ofText? {text : List Char} {instant : Instant}
    (read : ofText? text = some instant) :
    ∃ c, text.head? = some c ∧ c.isDigit = true := by
  obtain ⟨year, _, _, _, _, _, rfl, four, isDigits, _⟩ := exists_of_ofText? read
  cases year with
  | nil => cases four
  | cons c year => exact ⟨c, rfl, isDigits c List.mem_cons_self⟩

end Instant

end KeysetPaging
