import KeysetPaging.Literal.Reading
import KeysetPaging.Proofs.Calendar.Acceptance
import KeysetPaging.Proofs.Decimal.Acceptance
import KeysetPaging.Proofs.Guid

/-!
# The shapes of literals

An unquoted literal is offered to five readers in turn, and each of them takes
more than the spellings of its own values: short times, signed years, points and
exponents anywhere.  The order of the readers matters for none of it, because no
text suits two of them.  Guids and dates have hyphens, times of day have colons
and instants have both.  Two hyphens are left to numbers as well, one as the
sign and one in the exponent, but no date has the letter of an exponent, and a
guid has four hyphens.
-/

namespace KeysetPaging

namespace Date

/-- A date has two hyphens and no exponent. -/
theorem ofText?_eq_none_of_number {text : List Char} {number : Decimal}
    (read : Decimal.ofText? text = some number) : ofText? text = none := by
  rcases Decimal.count_hyphen_of_ofText? read with
    few | ⟨_, mark, member, exponent⟩
  · exact ofText?_eq_none (Nat.lt_succ_of_le few)
  · cases ofDate : ofText? text with
    | none => rfl
    | some date =>
        have plain := mem_of_ofText? ofDate member
        rcases exponent with rfl | rfl <;> exact absurd plain (by decide)

end Date

namespace Literal

/-- The value that one of the readers of unquoted literals makes of a text. -/
inductive Denotes (text : List Char) : Value → Prop where
  | guid {guid : Guid} (read : Guid.ofGrouped? text = some guid) :
      Denotes text (.guid guid)
  | instant {instant : Instant} (read : Instant.ofText? text = some instant) :
      Denotes text (.instant instant)
  | date {date : Date} (read : Date.ofText? text = some date) :
      Denotes text (.date date)
  | time {time : TimeOfDay} (read : TimeOfDay.ofText? text = some time) :
      Denotes text (.time time)
  | number {number : Decimal} (read : number? text = some number) :
      Denotes text (.number number)

theorem number?_eq_some_iff {text : List Char} {number : Decimal} :
    number? text = some number ↔ Decimal.ofText? text = some number ∧
      ∃ c, text.head? = some c ∧ (c.isDigit = true ∨ c = '-' ∨ c = '+') := by
  cases text with
  | nil => simp [number?]
  | cons c text => simp [number?, and_comm]

theorem unquoted?_of_denotes {text : List Char} {value : Value}
    (denotes : Denotes text value) : unquoted? text = some value := by
  cases denotes with
  | guid read => simp [unquoted?, read]
  | instant read =>
      have notGuid :=
        Guid.ofGrouped?_eq_none_of_colon (Instant.colon_mem_of_ofText? read)
      simp [unquoted?, notGuid, read]
  | date read =>
      have few := (Date.count_hyphen_of_ofText? read).2
      have noColon : ':' ∉ text :=
        fun colon => absurd (Date.mem_of_ofText? read colon) (by decide)
      have notGuid := Guid.ofGrouped?_eq_none (Nat.lt_succ_of_le few)
      have notInstant := Instant.ofText?_eq_none_of_no_colon noColon
      simp [unquoted?, notGuid, notInstant, read]
  | time read =>
      have colon := TimeOfDay.colon_mem_of_ofText? read
      have noHyphen : '-' ∉ text :=
        fun hyphen => absurd (TimeOfDay.mem_of_ofText? read hyphen) (by decide)
      have notGuid := Guid.ofGrouped?_eq_none_of_colon colon
      have notInstant := Instant.ofText?_eq_none_of_no_hyphen noHyphen
      have notDate := Date.ofText?_eq_none_of_no_hyphen noHyphen
      simp [unquoted?, notGuid, notInstant, notDate, read]
  | number read =>
      obtain ⟨number, _⟩ := number?_eq_some_iff.mp read
      have noColon : ':' ∉ text :=
        fun colon => absurd (Decimal.isNumeric_of_ofText? number colon)
          (by decide)
      have few : text.count '-' ≤ 2 := by
        rcases Decimal.count_hyphen_of_ofText? number with one | ⟨two, _⟩
        · exact Nat.le_succ_of_le one
        · exact two
      have notGuid := Guid.ofGrouped?_eq_none
        (Nat.lt_of_le_of_lt few (by decide))
      have notInstant := Instant.ofText?_eq_none_of_no_colon noColon
      have notDate := Date.ofText?_eq_none_of_number number
      have notTime := TimeOfDay.ofText?_eq_none noColon
      simp [unquoted?, notGuid, notInstant, notDate, notTime, read]

/-- The readers may be asked in any order. -/
theorem unquoted?_eq_some_iff {text : List Char} {value : Value} :
    unquoted? text = some value ↔ Denotes text value := by
  constructor
  · intro read
    simp only [unquoted?, Option.or_eq_some_iff, Option.map_eq_some_iff] at read
    rcases read with ⟨guid, read, rfl⟩ | ⟨_, ⟨instant, read, rfl⟩ |
      ⟨_, ⟨date, read, rfl⟩ | ⟨_, ⟨time, read, rfl⟩ | ⟨_, number, read, rfl⟩⟩⟩⟩
    · exact .guid read
    · exact .instant read
    · exact .date read
    · exact .time read
    · exact .number read
  · exact unquoted?_of_denotes

theorem value?_of_not_letter {text : List Char} {c : Char} (member : c ∈ text)
    (notLetter : c.isAlpha = false) :
    value? text =
      if text.head? = some '\'' then (string? text).map .string
      else unquoted? text := by
  have notWord : ∀ word : List Char, word.all Char.isAlpha = true →
      text ≠ word := by
    rintro word letters rfl
    rw [List.all_eq_true.mp letters c member] at notLetter
    cases notLetter
  have notNull : text ≠ nullText := notWord _ (by decide)
  have notTrue : text ≠ boolText true := notWord _ (by decide)
  have notFalse : text ≠ boolText false := notWord _ (by decide)
  simp [value?, bool?, notNull, notTrue, notFalse]

theorem value?_of_unquoted {text : List Char} {c : Char} (member : c ∈ text)
    (notLetter : c.isAlpha = false) (unquoted : text.head? ≠ some '\'') :
    value? text = unquoted? text := by
  rw [value?_of_not_letter member notLetter, if_neg unquoted]

/-- Unquoted literals are not taken for one of the words or for a string. -/
theorem value?_of_denotes {text : List Char} {value : Value}
    (denotes : Denotes text value) : value? text = some value := by
  have unmistaken {c : Char} (mark : c ∈ text) (notLetter : c.isAlpha = false)
      (quoteless : '\'' ∉ text) : value? text = some value := by
    rw [value?_of_unquoted mark notLetter, unquoted?_of_denotes denotes]
    exact fun first => quoteless (List.mem_of_head? first)
  cases denotes with
  | guid read =>
      apply unmistaken (Guid.hyphen_mem_of_ofGrouped? read) (by decide)
      exact fun quote => absurd (Guid.mem_of_ofGrouped? read quote) (by decide)
  | instant read =>
      obtain ⟨c, first, digit⟩ := Instant.head?_of_ofText? read
      rw [value?_of_unquoted (Instant.hyphen_mem_of_ofText? read) (by decide),
        unquoted?_of_denotes (.instant read)]
      intro quote
      rw [quote, Option.some.injEq] at first
      exact absurd (first ▸ digit) (by decide)
  | date read =>
      apply unmistaken (Date.hyphen_mem_of_ofText? read) (by decide)
      exact fun quote => absurd (Date.mem_of_ofText? read quote) (by decide)
  | time read =>
      apply unmistaken (TimeOfDay.colon_mem_of_ofText? read) (by decide)
      exact fun quote => absurd (TimeOfDay.mem_of_ofText? read quote) (by decide)
  | number read =>
      obtain ⟨number, c, first, figure⟩ := number?_eq_some_iff.mp read
      have notLetter : c.isAlpha = false := by
        rcases figure with digit | rfl | rfl
        · exact Text.isAlpha_eq_false_of_isFigure (.inl digit)
        · decide
        · decide
      apply unmistaken (List.mem_of_head? first) notLetter
      exact fun quote => absurd (Decimal.isNumeric_of_ofText? number quote)
        (by decide)

theorem value?_string (text : String) :
    value? (Text.quote text.toList) = some (.string text) := by
  have read : string? (Text.quote text.toList) = some text := by
    rw [string?, Text.unquote?_quote, Option.map_some, String.ofList_toList]
  have quoted : (Text.quote text.toList).head? = some '\'' := rfl
  rw [value?_of_not_letter (List.mem_of_head? quoted) (by decide),
    if_pos quoted, read, Option.map_some]

end Literal

end KeysetPaging
