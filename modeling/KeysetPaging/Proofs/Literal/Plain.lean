import KeysetPaging.Text.Character
import KeysetPaging.Token.Delimiters
import Mathlib.Data.Bool.AllAny
import Mathlib.Tactic.SplitIfs

/-!
# Plain characters

Literals other than strings and enum members consist of plain characters: ASCII
letters and digits, and the signs of numbers, dates and times.  Valid field
delimiters are no such characters, and neither is white space.  Numbers, dates
and times of day make do without the letters.
-/

namespace KeysetPaging

namespace Text

/-- The characters of unquoted literals. -/
def IsPlain (c : Char) : Prop :=
  c.isAlphanum = true ∨ c ∈ Delimiters.literalSigns

instance (c : Char) : Decidable (IsPlain c) :=
  inferInstanceAs (Decidable (_ ∨ _))

/-- The characters of numbers, dates and times of day. -/
def IsFigure (c : Char) : Prop :=
  c.isDigit = true ∨ c ∈ Delimiters.literalSigns

instance (c : Char) : Decidable (IsFigure c) :=
  inferInstanceAs (Decidable (_ ∨ _))

theorem isPlain_of_isFigure {c : Char} (figure : IsFigure c) : IsPlain c := by
  rcases figure with digit | sign
  · exact .inl (isAlphanum_of_isDigit digit)
  · exact .inr sign

theorem isAlpha_eq_false_of_isFigure {c : Char} (figure : IsFigure c) :
    c.isAlpha = false := by
  rcases figure with digit | sign
  · have range := isDigit_iff_toNat.mp digit
    rw [Bool.eq_false_iff, ne_eq, isAlpha_iff_toNat]
    omega
  · have signs : ∀ sign ∈ Delimiters.literalSigns, sign.isAlpha = false :=
      List.all_iff_forall_prop.mp (by decide)
    exact signs c sign

theorem isBlank_eq_false_of_isPlain {c : Char} (plain : IsPlain c) :
    isBlank c = false := by
  rcases plain with alphanumeric | sign
  · exact isBlank_eq_false_of_isAlphanum alphanumeric
  · have signs : ∀ sign ∈ Delimiters.literalSigns, isBlank sign = false :=
      List.all_iff_forall_prop.mp (by decide)
    exact signs c sign

end Text

namespace Delimiters

theorem valid_iff {delimiters : Delimiters} :
    delimiters.Valid ↔
      delimiters.field ≠ delimiters.property ∧
        inLiteralGrammar delimiters.field = false ∧
          inLiteralGrammar delimiters.property = false ∧
            delimiters.field ∉ literalSigns := by
  unfold Valid check
  split_ifs <;> simp_all

theorem Valid.field_not_plain {delimiters : Delimiters}
    (valid : delimiters.Valid) : ¬ Text.IsPlain delimiters.field := by
  obtain ⟨_, outside, _, unsigned⟩ := valid_iff.mp valid
  rintro (alphanumeric | sign)
  · simp [inLiteralGrammar, Text.isAlphanumeric_of_isAlphanum alphanumeric]
      at outside
  · exact unsigned sign

theorem Valid.field_ne_quote {delimiters : Delimiters}
    (valid : delimiters.Valid) : delimiters.field ≠ '\'' := by
  obtain ⟨_, outside, _, _⟩ := valid_iff.mp valid
  intro quote
  simp [inLiteralGrammar, quote] at outside

theorem Valid.property_not_digit {delimiters : Delimiters}
    (valid : delimiters.Valid) : delimiters.property.isDigit = false := by
  obtain ⟨_, _, outside, _⟩ := valid_iff.mp valid
  rw [Bool.eq_false_iff]
  intro digit
  have alphanumeric := Text.isAlphanum_of_isDigit digit
  simp [inLiteralGrammar, Text.isAlphanumeric_of_isAlphanum alphanumeric]
    at outside

end Delimiters

end KeysetPaging
