import KeysetPaging.Proofs.Calendar.Acceptance
import KeysetPaging.Proofs.Literal.Plain
import Mathlib.Tactic.SplitIfs

/-!
# Dates and times read back

Every date and every time of day is read back from its spelling, leap seconds
included, and so is every instant of the years from 0 to 9999; date-times have
no spelling for other years.
-/

namespace KeysetPaging

namespace Date

theorem day_lt_hundred (date : Date) : date.day < 10 ^ 2 := by
  have bound : Calendar.daysInMonth date.year date.month ≤ 31 := by
    unfold Calendar.daysInMonth
    repeat' split
    all_goals omega
  have range := date.day_range
  omega

theorem month_lt_hundred (date : Date) : date.month < 10 ^ 2 := by
  have range := date.month_range
  omega

theorem ofParts?_self (date : Date) :
    ofParts? date.year date.month date.day = some date := by
  have valid := And.intro date.year_range
    (And.intro date.month_range date.day_range)
  rw [ofParts?, dif_pos valid]

theorem yearText_ne_nil (year : Int) : yearText year ≠ [] := by
  unfold yearText
  split
  · simp
  · split
    · simp
    · exact Text.padded_ne_nil _ _

theorem mem_yearText {year : Int} {c : Char} (member : c ∈ yearText year) :
    c.isDigit = true ∨ c = '-' ∨ c = '+' := by
  unfold yearText at member
  split at member
  · rcases List.mem_cons.mp member with sign | digit
    · exact .inr (.inl sign)
    · exact .inl (Text.isDigit_of_mem_padded digit)
  · split at member
    · rcases List.mem_cons.mp member with sign | digit
      · exact .inr (.inr sign)
      · exact .inl (Text.isDigit_of_mem_digits digit)
    · exact .inl (Text.isDigit_of_mem_padded member)

/-- Without a sign at most four digits of a year are read. -/
theorem readYear?_of_isDigit {c : Char} (digit : c.isDigit = true)
    (text : List Char) :
    readYear? (c :: text) =
      (Text.readNumber? 4 (c :: text)).map fun (n, rest) => ((n : Int), rest) := by
  rw [readYear?]
  · rintro rest ⟨⟩
    exact absurd digit (by decide)
  · rintro rest ⟨⟩
    exact absurd digit (by decide)

theorem readYear?_yearText (year : Int) (rest : List Char) :
    readYear? (yearText year ++ '-' :: rest) = some (year, '-' :: rest) := by
  have stops : ∀ c ∈ ('-' :: rest).head?, c.isDigit = false := by
    rintro c ⟨⟩
    decide
  unfold yearText
  split
  · rename_i negative
    have read := Text.readNumber?_append
      (Text.padded 4 year.natAbs ++ '-' :: rest).length
      (fun _ => Text.isDigit_of_mem_padded) (Text.padded_ne_nil 4 year.natAbs)
      (.inr ⟨by simp, stops⟩)
    simp only [List.cons_append, readYear?, read, Option.map_some,
      Text.digitsValue_padded]
    have magnitude : -(year.natAbs : Int) = year := by omega
    rw [magnitude]
  · split
    · have read := Text.readNumber?_append
        (Text.digits year.natAbs ++ '-' :: rest).length
        (fun _ => Text.isDigit_of_mem_digits) (Text.digits_ne_nil year.natAbs)
        (.inr ⟨by simp, stops⟩)
      simp only [List.cons_append, readYear?, read, Option.map_some,
        Text.digitsValue_digits]
      have magnitude : (year.natAbs : Int) = year := by omega
      rw [magnitude]
    · have small : year.natAbs < 10 ^ 4 := by omega
      have read := Text.readNumber?_padded (by decide) small ('-' :: rest)
      cases front : Text.padded 4 year.natAbs with
      | nil => exact absurd front (Text.padded_ne_nil 4 _)
      | cons c digits =>
          have digit : c.isDigit = true :=
            Text.isDigit_of_mem_padded (front ▸ List.mem_cons_self)
          rw [front] at read
          rw [List.cons_append, readYear?_of_isDigit digit,
            ← List.cons_append, read, Option.map_some]
          have magnitude : (year.natAbs : Int) = year := by omega
          simp only [magnitude]

theorem trimStart_yearText_append (year : Int) (rest : List Char) :
    Text.trimStart (yearText year ++ rest) = yearText year ++ rest := by
  cases front : yearText year with
  | nil => exact absurd front (yearText_ne_nil year)
  | cons c text =>
      apply Text.trimStart_cons_of_not_blank
      rcases mem_yearText (front ▸ List.mem_cons_self) with digit | rfl | rfl
      · exact Text.isBlank_eq_false_of_isDigit digit
      · decide
      · decide

theorem ofText?_spelling (date : Date) : ofText? date.spelling = some date := by
  have day := Text.readNumber?_padded (by decide) date.day_lt_hundred []
  have trimmed := Text.trimStart_padded_append 2 date.day []
  rw [List.append_nil] at day trimmed
  simp [ofText?, spelling, trimStart_yearText_append, readYear?_yearText,
    Text.expect?_cons, Text.trimStart_padded_append,
    Text.readNumber?_padded (by decide) date.month_lt_hundred, day, trimmed,
    ofParts?_self]

theorem mem_spelling {date : Date} {c : Char} (member : c ∈ date.spelling) :
    c.isDigit = true ∨ c = '-' ∨ c = '+' := by
  rcases List.mem_append.mp member with year | rest
  · exact mem_yearText year
  · rcases List.mem_cons.mp rest with hyphen | rest
    · exact .inr (.inl hyphen)
    · rcases List.mem_append.mp rest with month | rest
      · exact .inl (Text.isDigit_of_mem_padded month)
      · rcases List.mem_cons.mp rest with hyphen | day
        · exact .inr (.inl hyphen)
        · exact .inl (Text.isDigit_of_mem_padded day)

theorem isFigure_of_mem_spelling {date : Date} {c : Char}
    (member : c ∈ date.spelling) : Text.IsFigure c := by
  rcases mem_spelling member with digit | rfl | rfl
  · exact .inl digit
  · decide
  · decide

theorem hyphen_mem_spelling (date : Date) : '-' ∈ date.spelling := by
  simp [spelling]

end Date

namespace TimeOfDay

/-- A leap second is written as second 60 with the rest of its fraction. -/
theorem ofParts?_self (time : TimeOfDay) :
    ofParts? time.hour time.minute
        (if time.isLeap then 60 else time.second)
        (time.nanosecond % 1000000000) = some time := by
  obtain ⟨hour, minute, second, nanosecond, hourRange, minuteRange,
    secondRange, range⟩ := time
  have valid : hour < 24 ∧ minute < 60 ∧
      nanosecond % 1000000000 < 1000000000 :=
    ⟨hourRange, minuteRange, Nat.mod_lt _ (by decide)⟩
  by_cases leap : 1000000000 ≤ nanosecond
  · have late : second = 59 := by omega
    have fraction : 1000000000 + nanosecond % 1000000000 = nanosecond := by
      omega
    subst late
    simp [ofParts?, isLeap, leap, hourRange, minuteRange, valid.2.2, fraction]
  · have fraction : nanosecond % 1000000000 = nanosecond := by omega
    have short : nanosecond < 1000000000 := by omega
    simp [ofParts?, isLeap, leap, hourRange, minuteRange, secondRange, fraction,
      short]

theorem readFraction?_padded {width n : Nat} (positive : 0 < width)
    (short : width ≤ 9) (small : n < 10 ^ width) {rest : List Char}
    (stops : ∀ c ∈ rest.head?, c.isDigit = false) :
    readFraction? ('.' :: (Text.padded width n ++ rest)) =
      some (n * 10 ^ (9 - width), rest) := by
  have full := Text.length_padded positive small
  have front : (Text.padded width n ++ rest).takeWhile Char.isDigit =
      Text.padded width n :=
    Text.takeWhile_isDigit_append (fun _ => Text.isDigit_of_mem_padded) stops
  have nine : (Text.padded width n).take 9 = Text.padded width n :=
    List.take_of_length_le (by omega)
  have value : Text.digitsValue
      (Text.padded width n ++ List.replicate (9 - width) '0') =
        n * 10 ^ (9 - width) := by
    rw [Text.digitsValue, Nat.ofDigitChars_append,
      Nat.ofDigitChars_replicate_zero, Nat.mul_comm]
    congr 1
    exact Text.digitsValue_padded width n
  simp [readFraction?, front, Text.padded_ne_nil, nine, full, value,
    List.drop_left' full]

theorem readFraction?_of_no_point {text : List Char}
    (pointless : ∀ c ∈ text.head?, c ≠ '.') :
    readFraction? text = some (0, text) := by
  unfold readFraction?
  split
  · exact absurd rfl (pointless '.' rfl)
  · rfl

theorem readFraction?_fractionText {nanosecond : Nat}
    (small : nanosecond < 1000000000) {rest : List Char}
    (stops : ∀ c ∈ rest.head?, c.isDigit = false)
    (pointless : ∀ c ∈ rest.head?, c ≠ '.') :
    readFraction? (fractionText nanosecond ++ rest) =
      some (nanosecond, rest) := by
  unfold fractionText
  split
  · rename_i whole
    rw [List.nil_append, readFraction?_of_no_point pointless, whole]
  · split
    · have exact : nanosecond / 1000000 * 10 ^ (9 - 3) = nanosecond := by omega
      rw [List.cons_append, readFraction?_padded (by decide) (by decide)
        (by omega) stops, exact]
    · split
      · have exact : nanosecond / 1000 * 10 ^ (9 - 6) = nanosecond := by omega
        rw [List.cons_append, readFraction?_padded (by decide) (by decide)
          (by omega) stops, exact]
      · rw [List.cons_append, readFraction?_padded (by decide) (by decide)
          small stops, Nat.sub_self, Nat.pow_zero, Nat.mul_one]

theorem mem_fractionText {nanosecond : Nat} {c : Char}
    (member : c ∈ fractionText nanosecond) : c.isDigit = true ∨ c = '.' := by
  have split (width n : Nat) (inside : c ∈ '.' :: Text.padded width n) :
      c.isDigit = true ∨ c = '.' := by
    rcases List.mem_cons.mp inside with point | digit
    · exact .inr point
    · exact .inl (Text.isDigit_of_mem_padded digit)
  unfold fractionText at member
  split_ifs at member
  · cases member
  · exact split _ _ member
  · exact split _ _ member
  · exact split _ _ member

def writtenSecond (time : TimeOfDay) : Nat :=
  if time.isLeap then 60 else time.second

theorem writtenSecond_lt (time : TimeOfDay) : time.writtenSecond < 10 ^ 2 := by
  have range := time.second_lt
  unfold writtenSecond
  split <;> omega

theorem spelling_eq (time : TimeOfDay) :
    time.spelling = Text.padded 2 time.hour ++ ':' ::
      (Text.padded 2 time.minute ++ ':' ::
        (Text.padded 2 time.writtenSecond ++
          fractionText (time.nanosecond % 1000000000))) := rfl

theorem hour_lt_hundred (time : TimeOfDay) : time.hour < 10 ^ 2 := by
  have range := time.hour_lt
  omega

theorem minute_lt_hundred (time : TimeOfDay) : time.minute < 10 ^ 2 := by
  have range := time.minute_lt
  omega

theorem ofText?_spelling (time : TimeOfDay) :
    ofText? time.spelling = some time := by
  have small : time.nanosecond % 1000000000 < 1000000000 :=
    Nat.mod_lt _ (by decide)
  have fraction :
      readFraction? (fractionText (time.nanosecond % 1000000000) ++ []) =
        some (time.nanosecond % 1000000000, []) :=
    readFraction?_fractionText small (by simp) (by simp)
  rw [List.append_nil] at fraction
  have parts := time.ofParts?_self
  rw [← writtenSecond] at parts
  simp [ofText?, spelling_eq, Text.trimStart_padded_append, Text.expect?_cons,
    Text.readNumber?_padded (by decide) time.hour_lt_hundred,
    Text.readNumber?_padded (by decide) time.minute_lt_hundred,
    Text.readNumber?_padded (by decide) time.writtenSecond_lt, fraction, parts]

theorem mem_spelling {time : TimeOfDay} {c : Char}
    (member : c ∈ time.spelling) :
    c.isDigit = true ∨ c = ':' ∨ c = '.' := by
  rw [spelling_eq] at member
  rcases List.mem_append.mp member with hour | rest
  · exact .inl (Text.isDigit_of_mem_padded hour)
  · rcases List.mem_cons.mp rest with colon | rest
    · exact .inr (.inl colon)
    · rcases List.mem_append.mp rest with minute | rest
      · exact .inl (Text.isDigit_of_mem_padded minute)
      · rcases List.mem_cons.mp rest with colon | rest
        · exact .inr (.inl colon)
        · rcases List.mem_append.mp rest with second | fraction
          · exact .inl (Text.isDigit_of_mem_padded second)
          · rcases mem_fractionText fraction with digit | point
            · exact .inl digit
            · exact .inr (.inr point)

theorem isFigure_of_mem_spelling {time : TimeOfDay} {c : Char}
    (member : c ∈ time.spelling) : Text.IsFigure c := by
  rcases mem_spelling member with digit | rfl | rfl
  · exact .inl digit
  · decide
  · decide

theorem colon_mem_spelling (time : TimeOfDay) : ':' ∈ time.spelling := by
  simp [spelling_eq]

end TimeOfDay

namespace Instant

/-- The years that date-times can be written for. -/
def HasFourDigitYear (instant : Instant) : Prop :=
  0 ≤ instant.date.year ∧ instant.date.year ≤ 9999

theorem atMinute_self (time : TimeOfDay) :
    atMinute time (time.hour * 60 + time.minute) = time := by
  obtain ⟨hour, minute, second, nanosecond, hourRange, minuteRange,
    secondRange, range⟩ := time
  have sameHour : (hour * 60 + minute) / 60 % 24 = hour := by omega
  have sameMinute : (hour * 60 + minute) % 60 = minute := by omega
  simp [atMinute, sameHour, sameMinute]

theorem ofLocal?_zero (date : Date) (time : TimeOfDay) :
    ofLocal? date time 0 = some ⟨date, time⟩ := by
  have hourRange := time.hour_lt
  have minuteRange := time.minute_lt
  have early : ¬ ((time.hour * 60 + time.minute : Nat) : Int) - 0 < 0 := by
    omega
  have late : ((time.hour * 60 + time.minute : Nat) : Int) - 0 < 1440 := by
    omega
  rw [ofLocal?, if_neg early, if_pos late, Int.sub_zero, Int.toNat_natCast,
    atMinute_self]

theorem spelling_eq {instant : Instant} (writable : instant.HasFourDigitYear) :
    instant.spelling =
      Text.padded 4 instant.date.year.natAbs ++ '-' ::
        (Text.padded 2 instant.date.month ++ '-' ::
          (Text.padded 2 instant.date.day ++ 'T' ::
            (Text.padded 2 instant.time.hour ++ ':' ::
              (Text.padded 2 instant.time.minute ++ ':' ::
                (Text.padded 2 instant.time.writtenSecond ++
                  (TimeOfDay.fractionText
                    (instant.time.nanosecond % 1000000000) ++ ['Z'])))))) := by
  have year : Date.yearText instant.date.year =
      Text.padded 4 instant.date.year.natAbs := by
    have positive : ¬ instant.date.year < 0 := Int.not_lt.mpr writable.1
    have short : ¬ 9999 < instant.date.year := Int.not_lt.mpr writable.2
    rw [Date.yearText, if_neg positive, if_neg short]
  simp only [spelling, Date.spelling, TimeOfDay.spelling_eq, year,
    List.append_assoc, List.cons_append]

/-- An instant of a year that can be written is read back as it was. -/
theorem ofText?_spelling {instant : Instant}
    (writable : instant.HasFourDigitYear) :
    ofText? instant.spelling = some instant := by
  rw [ofText?, spelling_eq writable]
  obtain ⟨date, time⟩ := instant
  obtain ⟨notBefore, notAfter⟩ : 0 ≤ date.year ∧ date.year ≤ 9999 := writable
  have small : date.year.natAbs < 10 ^ 4 := by omega
  have magnitude : (date.year.natAbs : Int) = date.year := by omega
  have short : time.nanosecond % 1000000000 < 1000000000 :=
    Nat.mod_lt _ (by decide)
  -- The steps below are those of the reader, one after the other.
  refine Option.bind_eq_some_iff.mpr
    ⟨_, Text.readFixed?_padded (by decide) small _, ?_⟩
  refine Option.bind_eq_some_iff.mpr ⟨_, Text.expect?_cons _ _, ?_⟩
  refine Option.bind_eq_some_iff.mpr
    ⟨_, Text.readFixed?_padded (by decide) date.month_lt_hundred _, ?_⟩
  refine Option.bind_eq_some_iff.mpr ⟨_, Text.expect?_cons _ _, ?_⟩
  refine Option.bind_eq_some_iff.mpr
    ⟨_, Text.readFixed?_padded (by decide) date.day_lt_hundred _, ?_⟩
  refine (if_pos (.inl rfl)).trans (Option.bind_eq_some_iff.mpr ⟨_, rfl, ?_⟩)
  refine Option.bind_eq_some_iff.mpr
    ⟨_, Text.readFixed?_padded (by decide) time.hour_lt_hundred _, ?_⟩
  refine Option.bind_eq_some_iff.mpr ⟨_, Text.expect?_cons _ _, ?_⟩
  refine Option.bind_eq_some_iff.mpr
    ⟨_, Text.readFixed?_padded (by decide) time.minute_lt_hundred _, ?_⟩
  refine Option.bind_eq_some_iff.mpr ⟨_, Text.expect?_cons _ _, ?_⟩
  refine Option.bind_eq_some_iff.mpr
    ⟨_, Text.readFixed?_padded (by decide) time.writtenSecond_lt _, ?_⟩
  refine Option.bind_eq_some_iff.mpr
    ⟨_, TimeOfDay.readFraction?_fractionText short (by simp) (by simp), ?_⟩
  have offset : offset? ['Z'] = some 0 := rfl
  refine Option.bind_eq_some_iff.mpr ⟨_, offset, ?_⟩
  have sameDate : Date.ofParts? (date.year.natAbs : Int) date.month date.day =
      some date := by
    rw [magnitude, Date.ofParts?_self]
  refine Option.bind_eq_some_iff.mpr ⟨_, sameDate, ?_⟩
  refine Option.bind_eq_some_iff.mpr ⟨_, time.ofParts?_self, ?_⟩
  exact ofLocal?_zero date time

theorem mem_spelling {instant : Instant} {c : Char}
    (member : c ∈ instant.spelling) :
    c ∈ instant.date.spelling ∨ c = 'T' ∨ c ∈ instant.time.spelling ∨
      c = 'Z' := by
  simpa [spelling] using member

theorem isPlain_of_mem_spelling {instant : Instant} {c : Char}
    (member : c ∈ instant.spelling) : Text.IsPlain c := by
  rcases mem_spelling member with date | rfl | time | rfl
  · exact Text.isPlain_of_isFigure (Date.isFigure_of_mem_spelling date)
  · decide
  · exact Text.isPlain_of_isFigure (TimeOfDay.isFigure_of_mem_spelling time)
  · decide

theorem hyphen_mem_spelling (instant : Instant) : '-' ∈ instant.spelling :=
  List.mem_append_left _ instant.date.hyphen_mem_spelling

end Instant

end KeysetPaging
