import KeysetPaging.Decimal.Text
import KeysetPaging.Proofs.Decimal.Acceptance
import KeysetPaging.Proofs.Decimal.Order
import KeysetPaging.Proofs.Literal.Plain
import KeysetPaging.Proofs.Text.Numeral

/-!
# Numbers read back

The plain spelling of a number is read as a number of the same value.  A number
with decimals comes back as it was; one with a negative scale is written with
zeros at its end, and comes back as an integer.
-/

namespace KeysetPaging.Decimal

def signText (number : Decimal) : List Char :=
  if number.coefficient < 0 then ['-'] else []

theorem spelling_eq (number : Decimal) :
    number.spelling = number.signText ++
      magnitudeText number.coefficient.natAbs number.scale.toInt := by
  unfold spelling signText
  split <;> rfl

theorem magnitudeText_of_nonpos (n : Nat) {scale : Int} (nonpos : scale ≤ 0) :
    magnitudeText n scale =
      Text.digits n ++ List.replicate (-scale).toNat '0' := by
  simp [magnitudeText, nonpos]

theorem magnitudeText_of_pos (n : Nat) {scale : Int} (positive : 0 < scale) :
    ∃ whole decimals, magnitudeText n scale = whole ++ '.' :: decimals ∧
      whole ++ decimals = (Text.digits n).leftpad (scale.toNat + 1) '0' ∧
        decimals.length = scale.toNat ∧ whole ≠ [] := by
  have fractional : ¬ scale ≤ 0 := by omega
  let filled := (Text.digits n).leftpad (scale.toNat + 1) '0'
  refine ⟨filled.take (filled.length - scale.toNat),
    filled.drop (filled.length - scale.toNat), ?_, List.take_append_drop _ _,
    ?_, ?_⟩
  · simp [magnitudeText, fractional, filled]
  · rw [List.length_drop, List.length_leftpad]
    omega
  · apply List.ne_nil_of_length_pos
    rw [List.length_take, List.length_leftpad]
    omega

theorem isDigit_of_mem_shifted (n count : Nat) :
    ∀ c ∈ Text.digits n ++ List.replicate count '0', c.isDigit = true := by
  intro c member
  rcases List.mem_append.mp member with digit | zero
  · exact Text.isDigit_of_mem_digits digit
  · rw [(List.mem_replicate.mp zero).2]
    decide

theorem isDigit_or_point_of_mem_magnitudeText {n : Nat} {scale : Int} {c : Char}
    (member : c ∈ magnitudeText n scale) : c.isDigit = true ∨ c = '.' := by
  by_cases nonpos : scale ≤ 0
  · rw [magnitudeText_of_nonpos n nonpos] at member
    exact .inl (isDigit_of_mem_shifted n _ c member)
  · obtain ⟨whole, decimals, text, filled, _⟩ :=
      magnitudeText_of_pos n (Int.not_le.mp nonpos)
    have isDigits : ∀ c ∈ whole ++ decimals, c.isDigit = true := by
      rw [filled]
      exact Text.isDigit_of_mem_leftpad fun _ => Text.isDigit_of_mem_digits
    rw [text] at member
    rcases List.mem_append.mp member with front | back
    · exact .inl (isDigits c (List.mem_append_left _ front))
    · rcases List.mem_cons.mp back with point | decimal
      · exact .inr point
      · exact .inl (isDigits c (List.mem_append_right _ decimal))

theorem exists_magnitudeText_eq_cons (n : Nat) (scale : Int) :
    ∃ c rest, magnitudeText n scale = c :: rest ∧ c.isDigit = true := by
  by_cases nonpos : scale ≤ 0
  · rw [magnitudeText_of_nonpos n nonpos]
    cases digits : Text.digits n with
    | nil => exact absurd digits (Text.digits_ne_nil n)
    | cons c rest =>
        exact ⟨c, _, rfl, Text.isDigit_of_mem_digits
          (digits ▸ List.mem_cons_self)⟩
  · obtain ⟨whole, decimals, text, filled, _, nonempty⟩ :=
      magnitudeText_of_pos n (Int.not_le.mp nonpos)
    cases whole with
    | nil => exact absurd rfl nonempty
    | cons c whole =>
        refine ⟨c, _, text, ?_⟩
        apply Text.isDigit_of_mem_leftpad
          fun _ => Text.isDigit_of_mem_digits (n := n)
        rw [← filled]
        exact List.mem_cons_self

theorem exists_spelling_eq_cons (number : Decimal) :
    ∃ c rest, number.spelling = c :: rest ∧ (c.isDigit = true ∨ c = '-') := by
  obtain ⟨c, rest, magnitude, digit⟩ := exists_magnitudeText_eq_cons
    number.coefficient.natAbs number.scale.toInt
  rw [spelling_eq, magnitude]
  unfold signText
  split
  · exact ⟨'-', c :: rest, rfl, .inr rfl⟩
  · exact ⟨c, rest, rfl, .inl digit⟩

theorem mem_spelling {number : Decimal} {c : Char}
    (member : c ∈ number.spelling) :
    c.isDigit = true ∨ c = '.' ∨ c = '-' := by
  rw [spelling_eq] at member
  rcases List.mem_append.mp member with sign | magnitude
  · simp only [signText] at sign
    split at sign
    · exact .inr (.inr (List.mem_singleton.mp sign))
    · cases sign
  · rcases isDigit_or_point_of_mem_magnitudeText magnitude with digit | point
    · exact .inl digit
    · exact .inr (.inl point)

theorem isFigure_of_mem_spelling {number : Decimal} {c : Char}
    (member : c ∈ number.spelling) : Text.IsFigure c := by
  rcases mem_spelling member with digit | rfl | rfl
  · exact .inl digit
  · decide
  · decide

theorem magnitude?_of_digits {text : List Char} (nonempty : text ≠ [])
    (isDigits : ∀ c ∈ text, c.isDigit = true) :
    magnitude? text = some (Text.digitsValue text) := by
  rw [magnitude?_eq_natural? (Text.not_mem_of_digits isDigits (by decide)),
    Text.natural?_of_digits nonempty isDigits]

theorem coefficient?_of_minus {c : Char} (unplussed : c ≠ '+')
    (text : List Char) :
    coefficient? ('-' :: c :: text) =
      (magnitude? (c :: text)).map fun n => -(n : Int) := by
  rw [coefficient?]
  intro rest same
  exact unplussed (List.cons.inj same).1

theorem coefficient?_of_unsigned {c : Char} (unplussed : c ≠ '+')
    (unsigned : c ≠ '-') (text : List Char) :
    coefficient? (c :: text) =
      (magnitude? (c :: text)).map fun n => (n : Int) := by
  rw [coefficient?]
  · intro rest same
    exact unsigned (List.cons.inj same).1
  · intro rest same
    exact unsigned (List.cons.inj same).1
  · intro rest same
    exact unplussed (List.cons.inj same).1

theorem coefficient?_signText_append (number : Decimal) {text : List Char}
    (nonempty : text ≠ []) (isDigits : ∀ c ∈ text, c.isDigit = true) :
    coefficient? (number.signText ++ text) =
      some (if number.coefficient < 0 then -(Text.digitsValue text : Int)
        else Text.digitsValue text) := by
  have read := magnitude?_of_digits nonempty isDigits
  cases text with
  | nil => exact absurd rfl nonempty
  | cons c text =>
      have digit : c.isDigit = true := isDigits c (by simp)
      have unplussed : c ≠ '+' := by
        rintro rfl
        exact absurd digit (by decide)
      have unsigned : c ≠ '-' := by
        rintro rfl
        exact absurd digit (by decide)
      unfold signText
      split
      · exact (coefficient?_of_minus unplussed text).trans (by rw [read]; rfl)
      · exact (coefficient?_of_unsigned unplussed unsigned text).trans
          (by rw [read]; rfl)

theorem splitExponent_spelling (number : Decimal) :
    splitExponent number.spelling = (number.spelling, none) := by
  apply Text.cutWhere_of_unmarked
  intro c member
  rcases mem_spelling member with digit | rfl | rfl
  · have small : c ≠ 'e' := by
      rintro rfl
      exact absurd digit (by decide)
    have large : c ≠ 'E' := by
      rintro rfl
      exact absurd digit (by decide)
    simp [small, large]
  · decide
  · decide

theorem point_not_mem_signText_append (number : Decimal) {text : List Char}
    (isDigits : ∀ c ∈ text, c.isDigit = true) :
    '.' ∉ number.signText ++ text := by
  intro member
  rcases List.mem_append.mp member with sign | digit
  · unfold signText at sign
    split at sign
    · exact absurd (List.mem_singleton.mp sign) (by decide)
    · cases sign
  · exact absurd (isDigits '.' digit) (by decide)

theorem signed_mul_natAbs (coefficient factor : Int) :
    (if coefficient < 0 then -(factor * coefficient.natAbs)
      else factor * coefficient.natAbs) = coefficient * factor := by
  by_cases negative : coefficient < 0
  · have magnitude : (coefficient.natAbs : Int) = -coefficient := by omega
    rw [if_pos negative, magnitude]
    ring
  · have magnitude : (coefficient.natAbs : Int) = coefficient := by omega
    rw [if_neg negative, magnitude, mul_comm]

theorem splitPoint_spelling_of_nonpos {number : Decimal}
    (nonpos : number.scale.toInt ≤ 0) :
    splitPoint number.spelling = (number.spelling, 0) := by
  have isDigits := isDigit_of_mem_shifted number.coefficient.natAbs
    (-number.scale.toInt).toNat
  rw [spelling_eq, magnitudeText_of_nonpos _ nonpos, splitPoint,
    Text.cutAt_of_not_mem (point_not_mem_signText_append number isDigits)]

theorem coefficient?_spelling_of_nonpos {number : Decimal}
    (nonpos : number.scale.toInt ≤ 0) :
    coefficient? number.spelling =
      some (number.coefficient * 10 ^ (-number.scale.toInt).toNat) := by
  have isDigits := isDigit_of_mem_shifted number.coefficient.natAbs
    (-number.scale.toInt).toNat
  have value : Text.digitsValue (Text.digits number.coefficient.natAbs ++
      List.replicate (-number.scale.toInt).toNat '0') =
        10 ^ (-number.scale.toInt).toNat * number.coefficient.natAbs := by
    rw [Text.digitsValue, Nat.ofDigitChars_append,
      Nat.ofDigitChars_replicate_zero]
    congr 1
    exact Text.digitsValue_digits _
  rw [spelling_eq, magnitudeText_of_nonpos _ nonpos,
    coefficient?_signText_append number (by simp [Text.digits_ne_nil]) isDigits,
    value]
  rw [Nat.cast_mul, Nat.cast_pow, Nat.cast_ofNat, signed_mul_natAbs]

theorem ofText?_spelling_of_nonpos {number : Decimal}
    (nonpos : number.scale.toInt ≤ 0) :
    ofText? number.spelling =
      some ⟨number.coefficient * 10 ^ (-number.scale.toInt).toNat, 0⟩ := by
  simp only [ofText?, splitExponent_spelling,
    splitPoint_spelling_of_nonpos nonpos,
    coefficient?_spelling_of_nonpos nonpos, Option.bind_some]
  rfl

theorem ofText?_spelling_of_pos {number : Decimal}
    (positive : 0 < number.scale.toInt) :
    ofText? number.spelling = some number := by
  obtain ⟨whole, decimals, text, filled, places, nonempty⟩ :=
    magnitudeText_of_pos number.coefficient.natAbs positive
  have isDigits : ∀ c ∈ whole ++ decimals, c.isDigit = true := by
    rw [filled]
    exact Text.isDigit_of_mem_leftpad fun _ => Text.isDigit_of_mem_digits
  have unspaced : decimals.filter (· ≠ '_') = decimals := by
    apply List.filter_eq_self.mpr
    intro c member
    have digit := isDigits c (List.mem_append_right _ member)
    have other : c ≠ '_' := by
      rintro rfl
      exact absurd digit (by decide)
    simpa using other
  have front : '.' ∉ number.signText ++ whole :=
    point_not_mem_signText_append number fun c member =>
      isDigits c (List.mem_append_left _ member)
  have cut : splitPoint number.spelling =
      (number.signText ++ (whole ++ decimals), number.scale.toInt.toNat) := by
    rw [spelling_eq, text, ← List.append_assoc, splitPoint,
      Text.cutAt_append front]
    cases decimals with
    | nil =>
        rw [List.length_nil] at places
        omega
    | cons c decimals => simp only [unspaced, places, List.append_assoc]
  have coefficient : coefficient? (number.signText ++ (whole ++ decimals)) =
      some number.coefficient := by
    rw [coefficient?_signText_append number (by simp [nonempty]) isDigits,
      filled, Text.digitsValue_leftpad, Text.digitsValue_digits]
    have magnitude := signed_mul_natAbs number.coefficient 1
    simpa using magnitude
  have scale : (number.scale.toInt.toNat : Int) = number.scale.toInt := by
    omega
  simp only [ofText?, splitExponent_spelling, cut, coefficient, scale,
    Int.sub_zero, Text.int64OfInt?_toInt, Option.bind_some, Option.map_some]

/-- A number is read back as a number of the same value. -/
theorem ofText?_spelling (number : Decimal) :
    ∃ read, ofText? number.spelling = some read ∧
      Ord.compare number read = .eq := by
  by_cases nonpos : number.scale.toInt ≤ 0
  · refine ⟨_, ofText?_spelling_of_nonpos nonpos, ?_⟩
    have shift : -number.scale.toInt = ((-number.scale.toInt).toNat : Int) := by
      omega
    rw [compare_eq_eq_iff, toRat, toRat, scaled, scaled, Int64.toInt_zero,
      neg_zero, zpow_zero, mul_one, Int.cast_mul, Int.cast_pow, Int.cast_ofNat,
      ← zpow_natCast, ← shift]
  · exact ⟨number, ofText?_spelling_of_pos (Int.not_le.mp nonpos),
      Std.ReflOrd.compare_self⟩

end KeysetPaging.Decimal
