import KeysetPaging.Guid
import KeysetPaging.Proofs.Literal.Plain
import Mathlib.Algebra.GroupWithZero.Nat

/-!
# Guids read back

The grouped spelling of a guid is read back as the guid.  A text that is read as
a grouped guid has a hyphen after each of its first four groups, which keeps
numbers, dates and times from being read as guids.
-/

namespace KeysetPaging

namespace Text

theorem hexValue?_digitChar {n : Nat} (small : n < 16) :
    hexValue? (Nat.digitChar n) = some n := by
  revert n
  decide

theorem isAlphanum_digitChar {n : Nat} (small : n < 16) :
    (Nat.digitChar n).isAlphanum = true := by
  revert n
  decide

theorem isAlphanum_of_mem_hexDigits {n : Nat} :
    ∀ c ∈ hexDigits n, c.isAlphanum = true := by
  induction n using Nat.strongRecOn with
  | _ n induction =>
      intro c member
      rw [hexDigits, Nat.toDigits_eq_if (by decide)] at member
      split at member
      · rename_i small
        rw [List.mem_singleton.mp member]
        exact isAlphanum_digitChar small
      · rcases List.mem_append.mp member with front | last
        · exact induction (n / 16) (by omega) c front
        · rw [List.mem_singleton.mp last]
          exact isAlphanum_digitChar (Nat.mod_lt n (by decide))

end Text

namespace Guid

theorem hexNumber?_append (read : Nat) (front rest : List Char) :
    hexNumber? read (front ++ rest) =
      (hexNumber? read front).bind fun n => hexNumber? n rest := by
  induction front generalizing read with
  | nil => rfl
  | cons c front induction =>
      cases value : Text.hexValue? c with
      | none => simp [hexNumber?, value]
      | some digit => simp [hexNumber?, value, induction]

theorem hexNumber?_replicate_zero (count : Nat) :
    hexNumber? 0 (List.replicate count '0') = some 0 := by
  induction count with
  | zero => rfl
  | succ count induction => exact induction

theorem hexNumber?_hexDigits (n : Nat) :
    hexNumber? 0 (Text.hexDigits n) = some n := by
  induction n using Nat.strongRecOn with
  | _ n induction =>
      rw [Text.hexDigits, Nat.toDigits_eq_if (by decide)]
      split
      · rename_i small
        simp [hexNumber?, Text.hexValue?_digitChar small]
      · rename_i large
        have front := induction (n / 16) (by omega)
        have last := Text.hexValue?_digitChar (Nat.mod_lt n (by decide : 16 > 0))
        rw [Text.hexDigits] at front
        simp [hexNumber?_append, front, hexNumber?, last]
        omega

theorem length_hexDigits (guid : Guid) : guid.hexDigits.length = 32 := by
  have small : guid.bits.toNat < 16 ^ 32 := guid.bits.isLt
  have fits : (Text.hexDigits guid.bits.toNat).length ≤ 32 :=
    (Nat.length_toDigits_le_iff (by decide) (by decide)).mpr small
  rw [hexDigits, List.length_leftpad]
  exact Nat.max_eq_left fits

theorem ofHexDigits?_hexDigits (guid : Guid) :
    ofHexDigits? guid.hexDigits = some guid := by
  have number : hexNumber? 0 guid.hexDigits = some guid.bits.toNat := by
    rw [hexDigits, List.leftpad, hexNumber?_append, hexNumber?_replicate_zero]
    exact hexNumber?_hexDigits guid.bits.toNat
  rw [ofHexDigits?, if_pos guid.length_hexDigits, number, Option.map_some,
    BitVec.ofNat_toNat, BitVec.setWidth_eq]

theorem unhyphenate?_hyphenate (widths : List Nat) (digits : List Char)
    (enough : widths.sum ≤ digits.length) :
    unhyphenate? widths (hyphenate widths digits) = some digits := by
  induction widths generalizing digits with
  | nil => rfl
  | cons width widths induction =>
      rw [List.sum_cons] at enough
      have fits : (digits.take width).length = width := by
        rw [List.length_take]
        omega
      have rest := induction (digits.drop width) (by
        rw [List.length_drop]
        omega)
      simp [hyphenate, unhyphenate?, List.drop_left' fits,
        List.take_left' fits, rest]

theorem length_hyphenate (widths : List Nat) (digits : List Char) :
    (hyphenate widths digits).length = digits.length + widths.length := by
  induction widths generalizing digits with
  | nil => rfl
  | cons width widths induction =>
      simp [hyphenate, induction]
      omega

theorem mem_hyphenate {widths : List Nat} {digits : List Char} {c : Char}
    (member : c ∈ hyphenate widths digits) : c ∈ digits ∨ c = '-' := by
  induction widths generalizing digits with
  | nil => exact .inl member
  | cons width widths induction =>
      rcases List.mem_append.mp member with front | back
      · exact .inl (List.mem_of_mem_take front)
      · rcases List.mem_cons.mp back with hyphen | rest
        · exact .inr hyphen
        · rcases induction rest with digit | hyphen
          · exact .inl (List.mem_of_mem_drop digit)
          · exact .inr hyphen

theorem length_spelling (guid : Guid) : guid.spelling.length = 36 := by
  rw [spelling, length_hyphenate, length_hexDigits]
  rfl

theorem ofGrouped?_spelling (guid : Guid) :
    ofGrouped? guid.spelling = some guid := by
  have digits : unhyphenate? [8, 4, 4, 4] guid.spelling =
      some guid.hexDigits :=
    unhyphenate?_hyphenate _ _ (by rw [length_hexDigits]; decide)
  rw [ofGrouped?, if_pos guid.length_spelling, digits, Option.bind_some,
    ofHexDigits?_hexDigits]

/-- Of the four spellings only the grouped one has 36 characters. -/
theorem ofText?_eq_ofGrouped? {text : List Char} (length : text.length = 36) :
    ofText? text = ofGrouped? text := by
  simp only [ofText?, length]

theorem isPlain_of_mem_spelling {guid : Guid} {c : Char}
    (member : c ∈ guid.spelling) : Text.IsPlain c := by
  rcases mem_hyphenate member with digit | rfl
  · rcases List.mem_append.mp digit with zero | inside
    · rw [(List.mem_replicate.mp zero).2]
      decide
    · exact .inl (Text.isAlphanum_of_mem_hexDigits c inside)
  · decide

theorem hyphen_mem_spelling (guid : Guid) : '-' ∈ guid.spelling := by
  simp [spelling, hyphenate]

/-- Every group but the last takes a hyphen of the text. -/
theorem length_le_count_of_unhyphenate? {widths : List Nat}
    {text digits : List Char} (read : unhyphenate? widths text = some digits) :
    widths.length ≤ text.count '-' := by
  induction widths generalizing text digits with
  | nil => exact Nat.zero_le _
  | cons width widths induction =>
      simp only [unhyphenate?] at read
      split at read
      · rename_i rest dropped
        obtain ⟨inner, readRest, _⟩ := Option.map_eq_some_iff.mp read
        have fewer := induction readRest
        have suffix : '-' :: rest <:+ text := dropped ▸ List.drop_suffix _ _
        have counted := suffix.sublist.count_le '-'
        rw [List.count_cons_self] at counted
        rw [List.length_cons]
        omega
      · cases read

theorem four_le_count_of_ofGrouped? {text : List Char} {guid : Guid}
    (read : ofGrouped? text = some guid) : 4 ≤ text.count '-' := by
  unfold ofGrouped? at read
  split at read
  · obtain ⟨digits, unhyphenated, _⟩ := Option.bind_eq_some_iff.mp read
    exact length_le_count_of_unhyphenate? unhyphenated
  · cases read

theorem hyphen_mem_of_ofGrouped? {text : List Char} {guid : Guid}
    (read : ofGrouped? text = some guid) : '-' ∈ text := by
  apply List.count_pos_iff.mp
  have many := four_le_count_of_ofGrouped? read
  omega

theorem isSome_of_mem_hexNumber? {read n : Nat} {text : List Char}
    (number : hexNumber? read text = some n) :
    ∀ c ∈ text, (Text.hexValue? c).isSome = true := by
  induction text generalizing read with
  | nil =>
      intro c member
      cases member
  | cons first text induction =>
      obtain ⟨digit, value, rest⟩ := Option.bind_eq_some_iff.mp number
      intro c member
      rcases List.mem_cons.mp member with same | inside
      · rw [same, value, Option.isSome_some]
      · exact induction rest c inside

theorem isSome_of_mem_ofHexDigits? {digits : List Char} {guid : Guid}
    (read : ofHexDigits? digits = some guid) :
    ∀ c ∈ digits, (Text.hexValue? c).isSome = true := by
  unfold ofHexDigits? at read
  split at read
  · obtain ⟨n, number, _⟩ := Option.map_eq_some_iff.mp read
    exact isSome_of_mem_hexNumber? number
  · cases read

theorem mem_of_unhyphenate? {widths : List Nat} {text digits : List Char}
    (read : unhyphenate? widths text = some digits) {c : Char}
    (member : c ∈ text) : c ∈ digits ∨ c = '-' := by
  induction widths generalizing text digits with
  | nil =>
      cases read
      exact .inl member
  | cons width widths induction =>
      simp only [unhyphenate?] at read
      split at read
      · rename_i rest dropped
        obtain ⟨inner, readRest, same⟩ := Option.map_eq_some_iff.mp read
        rw [← same, List.mem_append]
        rw [← List.take_append_drop width text, dropped, List.mem_append,
          List.mem_cons] at member
        rcases member with front | hyphen | back
        · exact .inl (.inl front)
        · exact .inr hyphen
        · exact (induction readRest back).imp_left .inr
      · cases read

theorem mem_of_ofGrouped? {text : List Char} {guid : Guid}
    (read : ofGrouped? text = some guid) {c : Char} (member : c ∈ text) :
    (Text.hexValue? c).isSome = true ∨ c = '-' := by
  unfold ofGrouped? at read
  split at read
  · obtain ⟨digits, unhyphenated, ofDigits⟩ := Option.bind_eq_some_iff.mp read
    apply (mem_of_unhyphenate? unhyphenated member).imp_left
    exact isSome_of_mem_ofHexDigits? ofDigits c
  · cases read

theorem ofGrouped?_eq_none {text : List Char} (few : text.count '-' < 4) :
    ofGrouped? text = none := by
  cases read : ofGrouped? text with
  | none => rfl
  | some guid =>
      have many := four_le_count_of_ofGrouped? read
      omega

theorem ofGrouped?_eq_none_of_colon {text : List Char} (colon : ':' ∈ text) :
    ofGrouped? text = none := by
  cases read : ofGrouped? text with
  | none => rfl
  | some guid => exact absurd (mem_of_ofGrouped? read colon) (by decide)

end Guid

end KeysetPaging
