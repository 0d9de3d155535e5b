import KeysetPaging.Text.Character
import KeysetPaging.Text.Numeral
import Mathlib.Algebra.Group.Nat.Defs

/-!
# Numerals read back

Padded and unpadded digit texts are read back as the numbers they were written
for, also when other text follows them.  What is read is always a front of the
text, so the characters that a reader expects after it stand in the text.
-/

namespace KeysetPaging.Text

theorem isDigit_of_mem_digits {n : Nat} {c : Char} (member : c ∈ digits n) :
    c.isDigit = true :=
  Nat.isDigit_of_mem_toDigits (by decide) (by decide) member

theorem digits_ne_nil (n : Nat) : digits n ≠ [] :=
  Nat.toDigits_ne_nil

theorem isDigit_of_mem_leftpad {text : List Char} {width : Nat}
    (isDigits : ∀ c ∈ text, c.isDigit = true) :
    ∀ c ∈ text.leftpad width '0', c.isDigit = true := by
  intro c member
  rcases List.mem_append.mp member with zero | inside
  · rw [(List.mem_replicate.mp zero).2]
    decide
  · exact isDigits c inside

theorem isDigit_of_mem_padded {width n : Nat} {c : Char}
    (member : c ∈ padded width n) : c.isDigit = true :=
  isDigit_of_mem_leftpad (fun _ => isDigit_of_mem_digits) c member

theorem padded_ne_nil (width n : Nat) : padded width n ≠ [] := by
  simp [padded, List.leftpad, digits_ne_nil]

theorem digitsValue_leftpad (text : List Char) (width : Nat) :
    digitsValue (text.leftpad width '0') = digitsValue text := by
  simp [digitsValue, List.leftpad, Nat.ofDigitChars_append]

@[simp] theorem digitsValue_padded (width n : Nat) :
    digitsValue (padded width n) = n := by
  rw [padded, digitsValue_leftpad, digitsValue_digits]

theorem length_padded {width n : Nat} (positive : 0 < width)
    (small : n < 10 ^ width) : (padded width n).length = width := by
  have fits : (digits n).length ≤ width :=
    (Nat.length_toDigits_le_iff (by decide) positive).mpr small
  rw [padded, List.length_leftpad]
  exact Nat.max_eq_left fits

theorem natural?_of_digits {text : List Char} (nonempty : text ≠ [])
    (isDigits : ∀ c ∈ text, c.isDigit = true) :
    natural? text = some (digitsValue text) := by
  have every : text.all Char.isDigit = true := List.all_eq_true.mpr isDigits
  simp [natural?, nonempty, every]

theorem isDigit_of_natural? {text : List Char} {n : Nat}
    (read : natural? text = some n) : ∀ c ∈ text, c.isDigit = true := by
  by_cases every : text.all Char.isDigit = true
  · exact List.all_eq_true.mp every
  · simp [natural?, every] at read

theorem natural?_eq_none_of_mem {text : List Char} {c : Char}
    (member : c ∈ text) (other : c.isDigit = false) : natural? text = none := by
  have every : text.all Char.isDigit = false :=
    List.all_eq_false.mpr ⟨c, member, by simp [other]⟩
  simp [natural?, every]

/-- What may stand before the digits of a number. -/
def IsSign (text : List Char) : Prop :=
  text = [] ∨ text = ['-'] ∨ text = ['+']

theorem IsSign.mem {sign : List Char} (isSign : IsSign sign) {c : Char}
    (member : c ∈ sign) : c = '-' ∨ c = '+' := by
  rcases isSign with rfl | rfl | rfl
  · cases member
  · exact .inl (List.mem_singleton.mp member)
  · exact .inr (List.mem_singleton.mp member)

theorem IsSign.count_hyphen_le {sign : List Char} (isSign : IsSign sign) :
    sign.count '-' ≤ 1 := by
  rcases isSign with rfl | rfl | rfl
  · exact Nat.zero_le 1
  · exact Nat.le_refl 1
  · exact Nat.zero_le 1

theorem exists_of_integer? {text : List Char} {n : Int}
    (read : integer? text = some n) :
    ∃ sign front, text = sign ++ front ∧ IsSign sign ∧
      ∀ c ∈ front, c.isDigit = true := by
  have isDigits {rest : List Char} {f : Int → Int}
      (read : Option.map f (natural? rest) = some n) :
      ∀ c ∈ rest, c.isDigit = true := by
    obtain ⟨_, lifted, _⟩ := Option.map_eq_some_iff.mp read
    obtain ⟨_, natural, _⟩ := Option.bind_eq_some_iff.mp lifted
    exact isDigit_of_natural? natural
  unfold integer? at read
  split at read
  · exact ⟨['-'], _, rfl, .inr (.inl rfl), isDigits read⟩
  · exact ⟨['+'], _, rfl, .inr (.inr rfl), isDigits read⟩
  · exact ⟨[], _, rfl, .inl rfl, isDigits read⟩

theorem integer?_digits (n : Nat) : integer? (digits n) = some (n : Int) := by
  have isDigits : ∀ c ∈ digits n, c.isDigit = true :=
    fun _ => isDigit_of_mem_digits
  have read := natural?_of_digits (digits_ne_nil n) isDigits
  rw [digitsValue_digits] at read
  unfold integer?
  split
  · rename_i rest signed
    exact absurd (isDigits '-' (by simp [signed])) (by decide)
  · rename_i rest signed
    exact absurd (isDigits '+' (by simp [signed])) (by decide)
  · rw [read]
    rfl

theorem integer?_integerText (n : Int) : integer? (integerText n) = some n := by
  by_cases negative : n < 0
  · have read := natural?_of_digits (digits_ne_nil n.natAbs)
      (fun _ => isDigit_of_mem_digits)
    have magnitude : -(n.natAbs : Int) = n := by omega
    rw [integerText, if_pos negative, integer?, read, digitsValue_digits]
    exact congrArg some magnitude
  · have magnitude : (n.natAbs : Int) = n := by omega
    rw [integerText, if_neg negative, integer?_digits, magnitude]

theorem int64OfInt?_eq_some_iff {m : Int} {n : Int64} :
    int64OfInt? m = some n ↔ n.toInt = m := by
  constructor
  · intro read
    unfold int64OfInt? at read
    split at read
    · split at read
      · cases read
        exact Int64.toInt_ofIntLE
      · cases read
    · cases read
  · rintro rfl
    exact int64OfInt?_toInt n

theorem int64?_eq_some_iff {text : List Char} {n : Int64} :
    int64? text = some n ↔ integer? text = some n.toInt := by
  rw [int64?, Option.bind_eq_some_iff]
  constructor
  · intro ⟨m, read, fits⟩
    rw [read, int64OfInt?_eq_some_iff.mp fits]
  · intro read
    exact ⟨n.toInt, read, int64OfInt?_toInt n⟩

theorem int64?_integerText (n : Int64) :
    int64? (integerText n.toInt) = some n :=
  int64?_eq_some_iff.mpr (integer?_integerText n.toInt)

theorem integerText_ne_nil (n : Int64) : integerText n.toInt ≠ [] := by
  intro empty
  have read := int64?_integerText n
  rw [empty] at read
  cases read

theorem int64?_eq_none {front rest : List Char} {mark : Char}
    (nonempty : front ≠ []) (other : mark.isDigit = false) :
    int64? (front ++ mark :: rest) = none := by
  have unread {text : List Char} (member : mark ∈ text) :
      natural? text = none :=
    natural?_eq_none_of_mem member other
  cases front with
  | nil => exact absurd rfl nonempty
  | cons first front =>
      have inside : mark ∈ front ++ mark :: rest := by simp
      unfold int64? integer?
      split
      · rename_i rest' signed
        have unsigned : front ++ mark :: rest = rest' := (List.cons.inj signed).2
        rw [unread (unsigned ▸ inside)]
        rfl
      · rename_i rest' signed
        have unsigned : front ++ mark :: rest = rest' := (List.cons.inj signed).2
        rw [unread (unsigned ▸ inside)]
        rfl
      · rw [unread (by simp)]
        rfl

theorem lt_of_unsigned64? {text : List Char} {n : Nat}
    (read : unsigned64? text = some n) : n < 2 ^ 64 := by
  obtain ⟨_, small⟩ := Option.filter_eq_some_iff.mp read
  exact of_decide_eq_true small

theorem unsigned64?_digits {n : Nat} (small : n < 2 ^ 64) :
    unsigned64? (digits n) = some n := by
  have isDigits : ∀ c ∈ digits n, c.isDigit = true :=
    fun _ => isDigit_of_mem_digits
  have read := natural?_of_digits (digits_ne_nil n) isDigits
  rw [digitsValue_digits] at read
  unfold unsigned64?
  split
  · rename_i rest signed
    exact absurd (isDigits '+' (by simp [signed])) (by decide)
  · simp only [read]
    exact Option.filter_some_pos (decide_eq_true small)

theorem takeWhile_isDigit_append {front rest : List Char}
    (isDigits : ∀ c ∈ front, c.isDigit = true)
    (stops : ∀ c ∈ rest.head?, c.isDigit = false) :
    (front ++ rest).takeWhile Char.isDigit = front := by
  rw [List.takeWhile_append_of_pos isDigits]
  cases rest with
  | nil => simp
  | cons c rest => simp [stops c rfl]

theorem takeDigits_append_of_digits {limit : Nat} {front rest : List Char}
    (isDigits : ∀ c ∈ front, c.isDigit = true)
    (stops : front.length = limit ∨
      (front.length ≤ limit ∧ ∀ c ∈ rest.head?, c.isDigit = false)) :
    takeDigits limit (front ++ rest) = (front, rest) := by
  have taken : ((front ++ rest).takeWhile Char.isDigit).take limit = front := by
    rcases stops with full | ⟨fits, stops⟩
    · rw [List.takeWhile_append_of_pos isDigits, List.take_left' full]
    · rw [takeWhile_isDigit_append isDigits stops, List.take_of_length_le fits]
  simp [takeDigits, taken]

theorem readNumber?_append (limit : Nat) {front rest : List Char}
    (isDigits : ∀ c ∈ front, c.isDigit = true) (nonempty : front ≠ [])
    (stops : front.length = limit ∨
      (front.length ≤ limit ∧ ∀ c ∈ rest.head?, c.isDigit = false)) :
    readNumber? limit (front ++ rest) = some (digitsValue front, rest) := by
  simp [readNumber?, takeDigits_append_of_digits isDigits stops, nonempty]

theorem readNumber?_padded {width n : Nat} (positive : 0 < width)
    (small : n < 10 ^ width) (rest : List Char) :
    readNumber? width (padded width n ++ rest) = some (n, rest) := by
  rw [readNumber?_append width (fun _ => isDigit_of_mem_padded) (padded_ne_nil _ _)
    (.inl (length_padded positive small)), digitsValue_padded]

theorem readFixed?_padded {width n : Nat} (positive : 0 < width)
    (small : n < 10 ^ width) (rest : List Char) :
    readFixed? width (padded width n ++ rest) = some (n, rest) := by
  have full := length_padded positive small
  simp [readFixed?, full,
    takeDigits_append_of_digits (fun _ => isDigit_of_mem_padded) (.inl full)]

theorem expect?_cons (c : Char) (rest : List Char) :
    expect? c (c :: rest) = some rest := by
  simp [expect?]

theorem expect?_eq_some_iff {expected : Char} {text rest : List Char} :
    expect? expected text = some rest ↔ text = expected :: rest := by
  cases text with
  | nil => simp [expect?]
  | cons c text => simp [expect?]

theorem isDigit_of_mem_takeDigits {limit : Nat} {text : List Char} {c : Char}
    (member : c ∈ (takeDigits limit text).1) : c.isDigit = true :=
  List.all_eq_true.mp List.all_takeWhile c (List.mem_of_mem_take member)

theorem exists_of_readNumber? {limit n : Nat} {text rest : List Char}
    (read : readNumber? limit text = some (n, rest)) :
    ∃ front, text = front ++ rest ∧ front ≠ [] ∧
      ∀ c ∈ front, c.isDigit = true := by
  have whole := takeDigits_append limit text
  simp only [readNumber?] at read
  split at read
  · cases read
  · rename_i nonempty
    cases read
    refine ⟨_, whole.symm, ?_, fun _ => isDigit_of_mem_takeDigits⟩
    simpa using nonempty

theorem exists_of_readFixed? {count n : Nat} {text rest : List Char}
    (read : readFixed? count text = some (n, rest)) :
    ∃ front, text = front ++ rest ∧ front.length = count ∧
      ∀ c ∈ front, c.isDigit = true := by
  have whole := takeDigits_append count text
  simp only [readFixed?] at read
  split at read
  · rename_i full
    cases read
    exact ⟨_, whole.symm, full, fun _ => isDigit_of_mem_takeDigits⟩
  · cases read

theorem exists_of_trimStart (text : List Char) :
    ∃ front, text = front ++ trimStart text ∧ ∀ c ∈ front, isBlank c = true :=
  ⟨text.takeWhile isBlank, List.takeWhile_append_dropWhile.symm,
    List.all_eq_true.mp List.all_takeWhile⟩

theorem trimStart_cons_of_not_blank {c : Char} (visible : isBlank c = false)
    (rest : List Char) : trimStart (c :: rest) = c :: rest := by
  simp [trimStart, visible]

theorem trimStart_append_of_digits {front : List Char} (nonempty : front ≠ [])
    (isDigits : ∀ c ∈ front, c.isDigit = true) (rest : List Char) :
    trimStart (front ++ rest) = front ++ rest := by
  cases front with
  | nil => exact absurd rfl nonempty
  | cons c front =>
      have visible : isBlank c = false :=
        isBlank_eq_false_of_isDigit (isDigits c (by simp))
      exact trimStart_cons_of_not_blank visible (front ++ rest)

theorem trimStart_of_digits {text : List Char}
    (isDigits : ∀ c ∈ text, c.isDigit = true) : trimStart text = text := by
  cases text with
  | nil => rfl
  | cons c text =>
      have nonempty : c :: text ≠ [] := List.cons_ne_nil c text
      simpa using trimStart_append_of_digits nonempty isDigits []

theorem trim_of_digits {text : List Char}
    (isDigits : ∀ c ∈ text, c.isDigit = true) : trim text = text := by
  have reversed : ∀ c ∈ text.reverse, c.isDigit = true :=
    fun c member => isDigits c (List.mem_reverse.mp member)
  rw [trim, trimStart_of_digits isDigits, trimStart_of_digits reversed,
    List.reverse_reverse]

theorem trimStart_padded_append (width n : Nat) (rest : List Char) :
    trimStart (padded width n ++ rest) = padded width n ++ rest :=
  trimStart_append_of_digits (padded_ne_nil width n)
    (fun _ => isDigit_of_mem_padded) rest

theorem not_mem_of_digits {text : List Char}
    (isDigits : ∀ c ∈ text, c.isDigit = true) {c : Char}
    (other : c.isDigit = false) : c ∉ text := by
  intro member
  rw [isDigits c member] at other
  cases other

end KeysetPaging.Text
