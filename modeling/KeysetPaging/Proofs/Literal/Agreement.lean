import KeysetPaging.Proofs.Literal.Acceptance
import Mathlib.Data.String.Basic

/-!
# Readers with and without a type

A property of a primitive type is read by the reader of its type, and a value in
a token by the shape of its literal.  Whatever the first accepts, the second reads
as the same value, although it asks other readers before: the shapes of unquoted
literals exclude each other, integers are numbers, and a string is the only thing
that begins with a quote.

Guids are the exception that the statement names.  Three of their four spellings
have no shape, and those are the ones that do not fill 36 bytes.
-/

namespace KeysetPaging

namespace Text

theorem length_le_utf8ByteSize (text : List Char) :
    text.length ≤ (String.ofList text).utf8ByteSize := by
  rw [String.utf8ByteSize_ofList]
  induction text with
  | nil => exact Nat.zero_le _
  | cons c text induction =>
      have positive := c.utf8Size_pos
      rw [List.length_cons, String.utf8Len_cons]
      omega

theorem utf8ByteSize_of_ascii {text : List Char}
    (ascii : ∀ c ∈ text, c.toNat < 128) :
    (String.ofList text).utf8ByteSize = text.length := by
  rw [String.utf8ByteSize_ofList]
  induction text with
  | nil => rfl
  | cons c text induction =>
      have single : c.utf8Size = 1 :=
        Char.utf8Size_eq_one_iff.mpr
          (Nat.le_of_lt_succ (ascii c List.mem_cons_self))
      have rest := induction fun d member =>
        ascii d (List.mem_cons_of_mem c member)
      rw [List.length_cons, String.utf8Len_cons, rest, single]

theorem toNat_lt_of_hexValue? {c : Char}
    (hexadecimal : (hexValue? c).isSome = true) : c.toNat < 128 := by
  have bounded {last : Char} (below : c ≤ last) (ascii : last.toNat < 128) :
      c.toNat < 128 :=
    Nat.lt_of_le_of_lt below ascii
  unfold hexValue? at hexadecimal
  split at hexadecimal
  · rename_i digit
    exact bounded digit.2 (by decide)
  · split at hexadecimal
    · rename_i lower
      exact bounded lower.2 (by decide)
    · split at hexadecimal
      · rename_i upper
        exact bounded upper.2 (by decide)
      · cases hexadecimal

end Text

namespace Guid

theorem ofGrouped?_of_ofText? {text : List Char} {guid : Guid}
    (size : (String.ofList text).utf8ByteSize = 36)
    (read : ofText? text = some guid) : ofGrouped? text = some guid := by
  have short := Text.length_le_utf8ByteSize text
  unfold ofText? at read
  split at read
  · rename_i length
    have ascii : ∀ c ∈ text, c.toNat < 128 := fun c member =>
      Text.toNat_lt_of_hexValue? (isSome_of_mem_ofHexDigits? read c member)
    have same := Text.utf8ByteSize_of_ascii ascii
    omega
  · exact read
  · omega
  · omega
  · cases read

end Guid

namespace Literal

theorem number?_of_int64? {text : List Char} {n : Int64}
    (read : Text.int64? text = some n) :
    number? text = some (Decimal.ofInt64 n) := by
  have integer := Text.int64?_eq_some_iff.mp read
  obtain ⟨sign, front, whole, isSign, isDigits⟩ :=
    Text.exists_of_integer? integer
  refine number?_eq_some_iff.mpr ⟨Decimal.ofText?_of_integer? integer, ?_⟩
  cases text with
  | nil => cases integer
  | cons c text =>
      refine ⟨c, rfl, ?_⟩
      have member : c ∈ sign ++ front := whole ▸ List.mem_cons_self
      rcases List.mem_append.mp member with signed | inFront
      · exact .inr (isSign.mem signed)
      · exact .inl (isDigits c inFront)

theorem value?_of_primitive? {kind : PrimitiveKind} {text : List Char}
    {value : Value} (notNull : text ≠ nullText)
    (grouped : kind = .guid → (String.ofList text).utf8ByteSize = 36)
    (read : primitive? kind text = some value) : value? text = some value := by
  cases kind with
  | string =>
      obtain ⟨string, accepted, rfl⟩ := Option.map_eq_some_iff.mp read
      rw [string?_eq_some_iff.mp accepted]
      exact value?_string string
  | int64 =>
      obtain ⟨n, accepted, rfl⟩ := Option.map_eq_some_iff.mp read
      exact value?_of_denotes (.number (number?_of_int64? accepted))
  | float64 =>
      obtain ⟨number, accepted, rfl⟩ := Option.map_eq_some_iff.mp read
      exact value?_of_denotes (.number accepted)
  | decimal =>
      obtain ⟨number, accepted, rfl⟩ := Option.map_eq_some_iff.mp read
      exact value?_of_denotes (.number accepted)
  | bool =>
      obtain ⟨word, accepted, rfl⟩ := Option.map_eq_some_iff.mp read
      rw [value?, if_neg notNull, accepted]
  | guid =>
      obtain ⟨guid, accepted, rfl⟩ := Option.map_eq_some_iff.mp read
      exact value?_of_denotes
        (.guid (Guid.ofGrouped?_of_ofText? (grouped rfl) accepted))
  | instant =>
      obtain ⟨instant, accepted, rfl⟩ := Option.map_eq_some_iff.mp read
      exact value?_of_denotes (.instant accepted)
  | date =>
      obtain ⟨date, accepted, rfl⟩ := Option.map_eq_some_iff.mp read
      exact value?_of_denotes (.date accepted)
  | time =>
      obtain ⟨time, accepted, rfl⟩ := Option.map_eq_some_iff.mp read
      exact value?_of_denotes (.time accepted)

/-- What is read with a primitive type is read as the same value without it. -/
theorem parse_of_parseTyped {model : Model} {kind : PrimitiveKind}
    {text : List Char} {value : Value}
    (grouped : kind = .guid → (String.ofList text).utf8ByteSize = 36)
    (read : parseTyped model (.primitive kind) text = .ok value) :
    parse text = .ok value := by
  apply orInvalid_eq_ok_iff.mpr
  rw [parseTyped] at read
  by_cases isNull : text = nullText
  · rw [if_pos isNull] at read
    cases read
    rw [value?, if_pos isNull]
  · rw [if_neg isNull] at read
    exact value?_of_primitive? isNull grouped (orInvalid_eq_ok_iff.mp read)

/-- An upper-case guid is accepted either way. -/
theorem parse_of_parseTyped_upperCase :
    parse "00112233-4455-6677-8899-AABBCCDDEEFF".toList =
      .ok (.guid ⟨0x00112233445566778899AABBCCDDEEFF⟩) := by
  have grouped : (String.ofList
      "00112233-4455-6677-8899-AABBCCDDEEFF".toList).utf8ByteSize = 36 := by
    decide
  have read : parseTyped .empty (.primitive .guid)
      "00112233-4455-6677-8899-AABBCCDDEEFF".toList =
        .ok (.guid ⟨0x00112233445566778899AABBCCDDEEFF⟩) := by
    decide
  exact parse_of_parseTyped (fun _ => grouped) read

end Literal

end KeysetPaging
