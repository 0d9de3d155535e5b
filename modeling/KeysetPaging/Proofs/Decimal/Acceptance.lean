import KeysetPaging.Decimal.Text
import KeysetPaging.Proofs.Text.Numeral

/-!
# What texts are numbers

A number text is wider than the plain notation: it may begin with either sign,
its point may stand anywhere among the digits, underscores are skipped, and an
exponent may follow.  All of it is still made of a few characters, and a hyphen
is a sign, so there are at most two of them, and the second one stands after an
exponent mark.
-/

namespace KeysetPaging.Decimal

/-- The characters of number texts. -/
def IsNumeric (c : Char) : Prop :=
  c.isDigit = true ∨ c ∈ ['-', '+', '.', '_', 'e', 'E']

instance (c : Char) : Decidable (IsNumeric c) :=
  inferInstanceAs (Decidable (_ ∨ _))

theorem magnitude?_eq_natural? {text : List Char} (unspaced : '_' ∉ text) :
    magnitude? text = Text.natural? text := by
  cases text with
  | nil => rfl
  | cons c text =>
      have first : c ≠ '_' := by
        intro same
        exact unspaced (same ▸ List.mem_cons_self)
      have kept : (c :: text).filter (· ≠ '_') = c :: text := by
        apply List.filter_eq_self.mpr
        intro d member
        have other : d ≠ '_' := fun same => unspaced (same ▸ member)
        simpa using other
      rw [magnitude?, if_neg first, kept]

theorem coefficient?_eq_integer? {text : List Char} (unspaced : '_' ∉ text) :
    coefficient? text = Text.integer? text := by
  unfold coefficient?
  split
  · rw [Text.integer?, Text.natural?_eq_none_of_mem List.mem_cons_self
      (by decide)]
    rfl
  · rw [Text.integer?, magnitude?_eq_natural?]
    exact fun member => unspaced (List.mem_cons_of_mem _ member)
  · rw [Text.integer?, magnitude?_eq_natural?]
    exact fun member => unspaced (List.mem_cons_of_mem _ member)
  · rename_i notMinus notPlus
    rw [Text.integer?, magnitude?_eq_natural? unspaced]
    · exact notMinus
    · exact notPlus

theorem isDigit_or_underscore_of_magnitude? {text : List Char} {n : Nat}
    (read : magnitude? text = some n) :
    ∀ c ∈ text, c.isDigit = true ∨ c = '_' := by
  intro c member
  by_cases underscore : c = '_'
  · exact .inr underscore
  left
  cases text with
  | nil => cases member
  | cons first text =>
      rw [magnitude?] at read
      split at read
      · cases read
      · apply Text.isDigit_of_natural? read
        exact List.mem_filter.mpr ⟨member, by simpa using underscore⟩

theorem exists_of_coefficient? {text : List Char} {n : Int}
    (read : coefficient? text = some n) :
    ∃ sign front, text = sign ++ front ∧ Text.IsSign sign ∧
      ∀ c ∈ front, c.isDigit = true ∨ c = '_' := by
  have plain {rest : List Char} {f : Int → Int}
      (read : Option.map f (magnitude? rest) = some n) :
      ∀ c ∈ rest, c.isDigit = true ∨ c = '_' := by
    obtain ⟨_, lifted, _⟩ := Option.map_eq_some_iff.mp read
    obtain ⟨_, magnitude, _⟩ := Option.bind_eq_some_iff.mp lifted
    exact isDigit_or_underscore_of_magnitude? magnitude
  unfold coefficient? at read
  split at read
  · cases read
  · exact ⟨['-'], _, rfl, .inr (.inl rfl), plain read⟩
  · exact ⟨['+'], _, rfl, .inr (.inr rfl), plain read⟩
  · exact ⟨[], _, rfl, .inl rfl, plain read⟩

theorem count_splitPoint {c : Char} (other : c ≠ '.') (text : List Char) :
    (splitPoint text).1.count c = text.count c := by
  unfold splitPoint
  split
  · rename_i whole cut
    rw [Text.eq_of_cutWhere_none cut]
  · rename_i whole cut
    obtain ⟨rfl, _⟩ := Text.cutAt_eq_some_iff.mp cut
    rw [List.count_append, List.count_cons_of_ne other.symm, List.count_nil,
      Nat.add_zero]
  · rename_i whole decimals _ cut
    obtain ⟨rfl, _⟩ := Text.cutAt_eq_some_iff.mp cut
    rw [List.count_append, List.count_append,
      List.count_cons_of_ne other.symm]

/-- A number text before its exponent. -/
def IsBase (text : List Char) : Prop :=
  ∃ n, coefficient? (splitPoint text).1 = some n

namespace IsBase

theorem isNumeric {text : List Char} (isBase : IsBase text) {c : Char}
    (member : c ∈ text) : IsNumeric c := by
  obtain ⟨n, read⟩ := isBase
  obtain ⟨sign, front, split, isSign, plain⟩ := exists_of_coefficient? read
  by_cases point : c = '.'
  · exact .inr (by simp [point])
  have counted : 0 < (splitPoint text).1.count c := by
    rw [count_splitPoint point]
    exact List.count_pos_iff.mpr member
  have inside := List.count_pos_iff.mp counted
  rw [split, List.mem_append] at inside
  rcases inside with signed | inFront
  · rcases isSign.mem signed with hyphen | plus
    · exact .inr (by simp [hyphen])
    · exact .inr (by simp [plus])
  · rcases plain c inFront with digit | underscore
    · exact .inl digit
    · exact .inr (by simp [underscore])

theorem count_hyphen_le {text : List Char} (isBase : IsBase text) :
    text.count '-' ≤ 1 := by
  obtain ⟨n, read⟩ := isBase
  obtain ⟨sign, front, split, isSign, plain⟩ := exists_of_coefficient? read
  have none : front.count '-' = 0 := by
    apply List.count_eq_zero.mpr
    intro member
    exact absurd (plain '-' member) (by decide)
  rw [← count_splitPoint (by decide), split, List.count_append, none]
  exact isSign.count_hyphen_le

end IsBase

/-- A number text is a base, alone or before an exponent. -/
theorem exists_of_ofText? {text : List Char} {number : Decimal}
    (read : ofText? text = some number) :
    IsBase text ∨ ∃ base mark exponent n, IsBase base ∧
      (mark = 'e' ∨ mark = 'E') ∧ Text.integer? exponent = some n ∧
        text = base ++ mark :: exponent := by
  obtain ⟨base, exponentText, split⟩ :
      ∃ base exponentText, splitExponent text = (base, exponentText) :=
    ⟨_, _, rfl⟩
  simp only [ofText?, split] at read
  obtain ⟨n, exponent, read⟩ := Option.bind_eq_some_iff.mp read
  obtain ⟨coefficient, ofBase, _⟩ := Option.bind_eq_some_iff.mp read
  cases exponentText with
  | none =>
      left
      rw [Text.eq_of_cutWhere_none split]
      exact ⟨coefficient, ofBase⟩
  | some digits =>
      obtain ⟨mark, isMark, whole, _⟩ := Text.exists_of_cutWhere split
      refine .inr ⟨base, mark, digits, n, ⟨coefficient, ofBase⟩, ?_,
        exponent, whole⟩
      simpa using isMark

theorem isNumeric_of_ofText? {text : List Char} {number : Decimal}
    (read : ofText? text = some number) {c : Char} (member : c ∈ text) :
    IsNumeric c := by
  rcases exists_of_ofText? read with
    isBase | ⟨base, mark, exponent, n, isBase, isMark, integer, whole⟩
  · exact isBase.isNumeric member
  · obtain ⟨sign, front, rfl, isSign, isDigits⟩ :=
      Text.exists_of_integer? integer
    rw [whole, List.mem_append, List.mem_cons, List.mem_append] at member
    rcases member with inBase | same | signed | inFront
    · exact isBase.isNumeric inBase
    · right
      rcases isMark with rfl | rfl <;> simp [same]
    · rcases isSign.mem signed with hyphen | plus
      · exact .inr (by simp [hyphen])
      · exact .inr (by simp [plus])
    · exact .inl (isDigits c inFront)

/-- A number text has at most one hyphen, and at most two if it has an
exponent. -/
theorem count_hyphen_of_ofText? {text : List Char} {number : Decimal}
    (read : ofText? text = some number) :
    text.count '-' ≤ 1 ∨
      text.count '-' ≤ 2 ∧ ∃ mark ∈ text, mark = 'e' ∨ mark = 'E' := by
  rcases exists_of_ofText? read with
    isBase | ⟨base, mark, exponent, n, isBase, isMark, integer, whole⟩
  · exact .inl isBase.count_hyphen_le
  · obtain ⟨sign, front, rfl, isSign, isDigits⟩ :=
      Text.exists_of_integer? integer
    have notHyphen : mark ≠ '-' := by
      rcases isMark with rfl | rfl <;> decide
    have none : front.count '-' = 0 :=
      List.count_eq_zero.mpr (Text.not_mem_of_digits isDigits (by decide))
    have inBase := isBase.count_hyphen_le
    have inSign := isSign.count_hyphen_le
    refine .inr ⟨?_, mark, by simp [whole], isMark⟩
    rw [whole, List.count_append, List.count_cons_of_ne notHyphen,
      List.count_append, none]
    omega

theorem ofText?_of_integer? {text : List Char} {n : Int}
    (read : Text.integer? text = some n) : ofText? text = some ⟨n, 0⟩ := by
  obtain ⟨sign, front, rfl, isSign, isDigits⟩ := Text.exists_of_integer? read
  have absent {c : Char} (notDigit : c.isDigit = false)
      (notSign : ¬ (c = '-' ∨ c = '+')) : c ∉ sign ++ front := by
    intro member
    rcases List.mem_append.mp member with signed | inFront
    · exact notSign (isSign.mem signed)
    · exact Text.not_mem_of_digits isDigits notDigit inFront
  have unmarked : splitExponent (sign ++ front) = (sign ++ front, none) := by
    apply Text.cutWhere_of_unmarked
    intro c member
    have small : c ≠ 'e' := by
      intro same
      exact absent (by decide) (by decide) (same ▸ member)
    have large : c ≠ 'E' := by
      intro same
      exact absent (by decide) (by decide) (same ▸ member)
    simp [small, large]
  have whole : splitPoint (sign ++ front) = (sign ++ front, 0) := by
    rw [splitPoint, Text.cutAt_of_not_mem (absent (by decide) (by decide))]
  have coefficient : coefficient? (sign ++ front) = some n := by
    rw [coefficient?_eq_integer? (absent (by decide) (by decide)), read]
  simp only [ofText?, unmarked, whole, coefficient, Option.bind_some]
  rfl

end KeysetPaging.Decimal
