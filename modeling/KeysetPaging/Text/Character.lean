import KeysetPaging.Text.Blank

/-!
# ASCII letters and digits

The core classes of ASCII characters as ranges of code points.  None of these
characters is white space.
-/

namespace KeysetPaging.Text

theorem isDigit_iff_toNat {c : Char} :
    c.isDigit = true ↔ 48 ≤ c.toNat ∧ c.toNat ≤ 57 :=
  Char.isDigit_iff_toNat

theorem isAlpha_iff_toNat {c : Char} :
    c.isAlpha = true ↔
      (65 ≤ c.toNat ∧ c.toNat ≤ 90) ∨ (97 ≤ c.toNat ∧ c.toNat ≤ 122) := by
  change (decide ('A'.val ≤ c.val ∧ c.val ≤ 'Z'.val) ||
    (decide ('a'.val ≤ c.val) && decide (c.val ≤ 'z'.val))) = true ↔ _
  rw [Bool.or_eq_true, Bool.and_eq_true, decide_eq_true_eq, decide_eq_true_eq,
    decide_eq_true_eq]
  exact Iff.rfl

theorem isAlphanum_iff {c : Char} :
    c.isAlphanum = true ↔ c.isAlpha = true ∨ c.isDigit = true := by
  change (c.isAlpha || c.isDigit) = true ↔ _
  rw [Bool.or_eq_true]

theorem isAlphanum_iff_toNat {c : Char} :
    c.isAlphanum = true ↔
      ((65 ≤ c.toNat ∧ c.toNat ≤ 90) ∨ (97 ≤ c.toNat ∧ c.toNat ≤ 122)) ∨
        (48 ≤ c.toNat ∧ c.toNat ≤ 57) := by
  rw [isAlphanum_iff, isAlpha_iff_toNat, isDigit_iff_toNat]

theorem isAlphanum_of_isDigit {c : Char} (digit : c.isDigit = true) :
    c.isAlphanum = true :=
  isAlphanum_iff.mpr (.inr digit)

theorem isBlank_eq_false_of_isAlphanum {c : Char}
    (alphanumeric : c.isAlphanum = true) : isBlank c = false := by
  have range := isAlphanum_iff_toNat.mp alphanumeric
  simp [isBlank]
  omega

theorem isBlank_eq_false_of_isDigit {c : Char} (digit : c.isDigit = true) :
    isBlank c = false :=
  isBlank_eq_false_of_isAlphanum (isAlphanum_of_isDigit digit)

end KeysetPaging.Text
