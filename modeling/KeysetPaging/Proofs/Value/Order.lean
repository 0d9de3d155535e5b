import KeysetPaging.Proofs.Decimal.Order
import KeysetPaging.Value

/-!
# The order of values

Sorting, filtering and resuming all rest on one comparison of values.  It is
analysed here through the content of a value: nothing for null, and otherwise a
kind together with an element of a type that is linearly ordered.  Numbers are
represented by the rationals they denote and enum members by their underlying
integers, so both are contents of one kind.

Every law is then a law of contents: equality in the order is equality of
contents, the order is oriented and transitive, and two values are ordered
exactly when they are comparable.
-/

namespace KeysetPaging

namespace Guid

instance : Std.TransOrd Guid :=
  inferInstanceAs (Std.TransCmp (compareOn Guid.bits))

instance : Std.LawfulEqOrd Guid where
  compare_self := Std.ReflOrd.compare_self
  eq_of_compare {left right} same := by
    cases left
    cases right
    exact congrArg Guid.mk (Std.LawfulEqOrd.eq_of_compare same)

end Guid

namespace Date

instance : Std.TransOrd Date :=
  inferInstanceAs (Std.TransCmp (compareLex (compareOn Date.year)
    (compareLex (compareOn Date.month) (compareOn Date.day))))

instance : Std.LawfulEqOrd Date where
  compare_self := Std.ReflOrd.compare_self
  eq_of_compare {left right} same := by
    obtain ⟨years, rest⟩ := Ordering.then_eq_eq.mp same
    obtain ⟨months, days⟩ := Ordering.then_eq_eq.mp rest
    cases left
    cases right
    cases Std.LawfulEqOrd.eq_of_compare years
    cases Std.LawfulEqOrd.eq_of_compare months
    cases Std.LawfulEqOrd.eq_of_compare days
    rfl

end Date

namespace TimeOfDay

instance : Std.TransOrd TimeOfDay :=
  inferInstanceAs (Std.TransCmp (compareLex (compareOn TimeOfDay.hour)
    (compareLex (compareOn TimeOfDay.minute)
      (compareLex (compareOn TimeOfDay.second)
        (compareOn TimeOfDay.nanosecond)))))

instance : Std.LawfulEqOrd TimeOfDay where
  compare_self := Std.ReflOrd.compare_self
  eq_of_compare {left right} same := by
    obtain ⟨hours, rest⟩ := Ordering.then_eq_eq.mp same
    obtain ⟨minutes, rest⟩ := Ordering.then_eq_eq.mp rest
    obtain ⟨seconds, nanoseconds⟩ := Ordering.then_eq_eq.mp rest
    cases left
    cases right
    cases Std.LawfulEqOrd.eq_of_compare hours
    cases Std.LawfulEqOrd.eq_of_compare minutes
    cases Std.LawfulEqOrd.eq_of_compare seconds
    cases Std.LawfulEqOrd.eq_of_compare nanoseconds
    rfl

end TimeOfDay

namespace Instant

instance : Std.TransOrd Instant :=
  inferInstanceAs (Std.TransCmp (compareLex (compareOn Instant.date)
    (compareOn Instant.time)))

instance : Std.LawfulEqOrd Instant where
  compare_self := Std.ReflOrd.compare_self
  eq_of_compare {left right} same := by
    obtain ⟨dates, times⟩ := Ordering.then_eq_eq.mp same
    cases left
    cases right
    cases Std.LawfulEqOrd.eq_of_compare dates
    cases Std.LawfulEqOrd.eq_of_compare times
    rfl

end Instant

/-- The comparable kinds of values.  Numbers and enum members are of one
kind. -/
inductive ValueKind where
  | bool
  | number
  | guid
  | instant
  | date
  | time
  | string
deriving DecidableEq

namespace ValueKind

/-- What two values of a kind are compared by. -/
def Carrier : ValueKind → Type
  | .bool => Bool
  | .number => ℚ
  | .guid => Guid
  | .instant => Instant
  | .date => Date
  | .time => TimeOfDay
  | .string => String

instance (kind : ValueKind) : Ord kind.Carrier :=
  match kind with
  | .bool => inferInstanceAs (Ord Bool)
  | .number => inferInstanceAs (Ord ℚ)
  | .guid => inferInstanceAs (Ord Guid)
  | .instant => inferInstanceAs (Ord Instant)
  | .date => inferInstanceAs (Ord Date)
  | .time => inferInstanceAs (Ord TimeOfDay)
  | .string => inferInstanceAs (Ord String)

instance (kind : ValueKind) : Std.TransOrd kind.Carrier :=
  match kind with
  | .bool => inferInstanceAs (Std.TransOrd Bool)
  | .number => inferInstanceAs (Std.TransOrd ℚ)
  | .guid => inferInstanceAs (Std.TransOrd Guid)
  | .instant => inferInstanceAs (Std.TransOrd Instant)
  | .date => inferInstanceAs (Std.TransOrd Date)
  | .time => inferInstanceAs (Std.TransOrd TimeOfDay)
  | .string => inferInstanceAs (Std.TransOrd String)

instance (kind : ValueKind) : Std.LawfulEqOrd kind.Carrier :=
  match kind with
  | .bool => inferInstanceAs (Std.LawfulEqOrd Bool)
  | .number => inferInstanceAs (Std.LawfulEqOrd ℚ)
  | .guid => inferInstanceAs (Std.LawfulEqOrd Guid)
  | .instant => inferInstanceAs (Std.LawfulEqOrd Instant)
  | .date => inferInstanceAs (Std.LawfulEqOrd Date)
  | .time => inferInstanceAs (Std.LawfulEqOrd TimeOfDay)
  | .string => inferInstanceAs (Std.LawfulEqOrd String)

end ValueKind

/-- What a value other than null is compared by. -/
abbrev Content : Type := (kind : ValueKind) × kind.Carrier

namespace Content

/-- Contents of one kind are compared by their carriers, and others not at
all. -/
def compare? (left right : Content) : Option Ordering :=
  if same : left.1 = right.1 then
    some (Ord.compare (same ▸ left.2) right.2)
  else none

/-- The comparison of contents with a missing one before every other. -/
def compareFirst? : Option Content → Option Content → Option Ordering
  | none, none => some .eq
  | none, some _ => some .lt
  | some _, none => some .gt
  | some left, some right => compare? left right

@[simp] theorem compare?_same (kind : ValueKind) (left right : kind.Carrier) :
    compare? ⟨kind, left⟩ ⟨kind, right⟩ = some (Ord.compare left right) := by
  simp [compare?]

theorem compare?_of_ne {left right : Content} (different : left.1 ≠ right.1) :
    compare? left right = none := by
  simp [compare?, different]

theorem compareFirst?_swap (left right : Option Content) :
    compareFirst? right left = (compareFirst? left right).map Ordering.swap := by
  rcases left with _ | ⟨leftKind, left⟩ <;>
    rcases right with _ | ⟨rightKind, right⟩
  · rfl
  · rfl
  · rfl
  · by_cases same : leftKind = rightKind
    · subst same
      simp only [compareFirst?, compare?_same, Option.map_some, Option.some.injEq]
      exact Std.OrientedOrd.eq_swap
    · have reverse : rightKind ≠ leftKind := Ne.symm same
      simp [compareFirst?, compare?_of_ne, same, reverse]

theorem compareFirst?_eq_eq_iff {left right : Option Content} :
    compareFirst? left right = some .eq ↔ left = right := by
  rcases left with _ | ⟨leftKind, left⟩ <;>
    rcases right with _ | ⟨rightKind, right⟩
  · simp [compareFirst?]
  · simp [compareFirst?]
  · simp [compareFirst?]
  · by_cases same : leftKind = rightKind
    · subst same
      simp only [compareFirst?, compare?_same, Option.some.injEq, Sigma.mk.injEq,
        heq_eq_eq, true_and]
      exact Std.LawfulEqOrd.compare_eq_iff_eq
    · simp [compareFirst?, compare?_of_ne, same]

theorem compareFirst?_lt_trans {left middle right : Option Content}
    (first : compareFirst? left middle = some .lt)
    (second : compareFirst? middle right = some .lt) :
    compareFirst? left right = some .lt := by
  rcases middle with _ | ⟨middleKind, middle⟩
  · rcases left with _ | left <;> simp [compareFirst?] at first
  rcases right with _ | ⟨rightKind, right⟩
  · simp [compareFirst?] at second
  rcases left with _ | ⟨leftKind, left⟩
  · rfl
  by_cases leftSame : leftKind = middleKind
  · by_cases rightSame : middleKind = rightKind
    · subst leftSame rightSame
      simp only [compareFirst?, compare?_same, Option.some.injEq]
        at first second ⊢
      exact Std.TransCmp.lt_trans first second
    · simp [compareFirst?, compare?_of_ne, rightSame] at second
  · simp [compareFirst?, compare?_of_ne, leftSame] at first

theorem compareFirst?_isSome_iff {left right : Option Content} :
    (compareFirst? left right).isSome ↔
      left = none ∨ right = none ∨ left.map Sigma.fst = right.map Sigma.fst := by
  rcases left with _ | ⟨leftKind, left⟩ <;>
    rcases right with _ | ⟨rightKind, right⟩
  · simp [compareFirst?]
  · simp [compareFirst?]
  · simp [compareFirst?]
  · by_cases same : leftKind = rightKind
    · subst same
      simp [compareFirst?]
    · simp [compareFirst?, compare?_of_ne, same]

end Content

namespace Value

/-- The content of a value, none for null. -/
def content? : Value → Option Content
  | .null => none
  | .bool value => some ⟨.bool, value⟩
  | .number value => some ⟨.number, value.toRat⟩
  | .guid value => some ⟨.guid, value⟩
  | .instant value => some ⟨.instant, value⟩
  | .date value => some ⟨.date, value⟩
  | .time value => some ⟨.time, value⟩
  | .string value => some ⟨.string, value⟩
  | .enum value => some ⟨.number, (value.value.toInt : ℚ)⟩

def kind? (value : Value) : Option ValueKind :=
  value.content?.map Sigma.fst

/-- Two values are comparable when one is null or both are of one kind. -/
def Comparable (left right : Value) : Prop :=
  left = .null ∨ right = .null ∨ left.kind? = right.kind?

instance (left right : Value) : Decidable (Comparable left right) :=
  inferInstanceAs (Decidable (_ ∨ _ ∨ _))

/-- A value precedes another when it is null and the other is not, or when it is
the lesser of two values of one kind. -/
def Precedes (left right : Value) : Prop :=
  (left = .null ∧ right ≠ .null) ∨ left.compare right = some .lt

instance (left right : Value) : Decidable (Precedes left right) :=
  inferInstanceAs (Decidable (_ ∨ _))

theorem compareNullsFirst_null_left {value : Value} (present : value ≠ .null) :
    Value.null.compareNullsFirst value = some .lt := by
  cases value <;> first | rfl | exact absurd rfl present

theorem compareNullsFirst_of_compare {left right : Value} {order : Ordering}
    (compared : left.compare right = some order) :
    left.compareNullsFirst right = some order := by
  cases left <;> cases right <;> first | exact compared | cases compared

theorem precedes_iff_compareNullsFirst {left right : Value} :
    left.Precedes right ↔ left.compareNullsFirst right = some .lt := by
  cases left <;> cases right <;> simp [Precedes, compareNullsFirst, compare]

theorem content?_eq_none_iff {value : Value} :
    value.content? = none ↔ value = .null := by
  cases value <;> simp [content?]

@[simp] theorem content?_unwrapEnum (value : Value) :
    value.unwrapEnum.content? = value.content? := by
  cases value <;> simp [unwrapEnum, ofInt64, content?]

theorem compareNullsFirst_unwrapEnum (left right : Value) :
    left.unwrapEnum.compareNullsFirst right.unwrapEnum =
      left.compareNullsFirst right := by
  cases left <;> cases right <;>
    simp only [unwrapEnum, ofInt64, compareNullsFirst, compare,
      Decimal.compare_ofInt64]

/-- The order of two values is the order of their contents. -/
theorem compareNullsFirst_eq_compareFirst? (left right : Value) :
    left.compareNullsFirst right =
      Content.compareFirst? left.content? right.content? := by
  rw [← compareNullsFirst_unwrapEnum]
  cases left <;> cases right <;>
    simp [unwrapEnum, ofInt64, compareNullsFirst, compare, content?,
      Content.compareFirst?, Content.compare?, Decimal.compare_eq_compare_toRat]
  -- Two values of one kind are left, and a carrier has the order of its kind.
  all_goals rfl

theorem equals_eq_compareNullsFirst (left right : Value) :
    left.equals right = (left.compareNullsFirst right == some .eq) := by
  cases left <;> cases right <;> simp [equals, compareNullsFirst]

theorem equals_iff_compareNullsFirst {left right : Value} :
    left.equals right = true ↔ left.compareNullsFirst right = some .eq := by
  rw [equals_eq_compareNullsFirst, beq_iff_eq]

theorem compareNullsFirst_eq_eq_iff {left right : Value} :
    left.compareNullsFirst right = some .eq ↔
      left.content? = right.content? := by
  rw [compareNullsFirst_eq_compareFirst?, Content.compareFirst?_eq_eq_iff]

theorem equals_iff_content? {left right : Value} :
    left.equals right = true ↔ left.content? = right.content? :=
  equals_iff_compareNullsFirst.trans compareNullsFirst_eq_eq_iff

theorem equals_refl (value : Value) : value.equals value = true :=
  equals_iff_content?.mpr rfl

theorem equals_symm {left right : Value} (same : left.equals right = true) :
    right.equals left = true :=
  equals_iff_content?.mpr (equals_iff_content?.mp same).symm

theorem equals_trans {left middle right : Value}
    (first : left.equals middle = true) (second : middle.equals right = true) :
    left.equals right = true :=
  equals_iff_content?.mpr
    ((equals_iff_content?.mp first).trans (equals_iff_content?.mp second))

@[simp] theorem equals_unwrapEnum_right (left right : Value) :
    left.equals right.unwrapEnum = left.equals right := by
  rw [Bool.eq_iff_iff, equals_iff_content?, equals_iff_content?,
    content?_unwrapEnum]

theorem compareNullsFirst_swap (left right : Value) :
    right.compareNullsFirst left =
      (left.compareNullsFirst right).map Ordering.swap := by
  rw [compareNullsFirst_eq_compareFirst?, compareNullsFirst_eq_compareFirst?,
    Content.compareFirst?_swap]

theorem compareNullsFirst_congr {left left' right right' : Value}
    (leftSame : left.content? = left'.content?)
    (rightSame : right.content? = right'.content?) :
    left.compareNullsFirst right = left'.compareNullsFirst right' := by
  rw [compareNullsFirst_eq_compareFirst?, compareNullsFirst_eq_compareFirst?,
    leftSame, rightSame]

theorem compareNullsFirst_lt_trans {left middle right : Value}
    (first : left.compareNullsFirst middle = some .lt)
    (second : middle.compareNullsFirst right = some .lt) :
    left.compareNullsFirst right = some .lt := by
  rw [compareNullsFirst_eq_compareFirst?] at first second ⊢
  exact Content.compareFirst?_lt_trans first second

/-- The order from the right, which is how the values after a recorded one are
found. -/
theorem precedes_iff_compareNullsFirst_gt {left right : Value} :
    left.Precedes right ↔ right.compareNullsFirst left = some .gt := by
  rw [precedes_iff_compareNullsFirst, compareNullsFirst_swap right left]
  simp only [Option.map_eq_some_iff, Ordering.swap_eq_lt, exists_eq_right]

theorem Comparable.symm {left right : Value}
    (comparable : left.Comparable right) : right.Comparable left := by
  rcases comparable with isNull | isNull | sameKind
  · exact .inr (.inl isNull)
  · exact .inl isNull
  · exact .inr (.inr sameKind.symm)

theorem comparable_of_kind {left right : Value} {kind : ValueKind}
    (leftKind : left = .null ∨ left.kind? = some kind)
    (rightKind : right = .null ∨ right.kind? = some kind) :
    left.Comparable right := by
  rcases leftKind with isNull | leftKind
  · exact .inl isNull
  · rcases rightKind with isNull | rightKind
    · exact .inr (.inl isNull)
    · exact .inr (.inr (leftKind.trans rightKind.symm))

theorem comparable_iff_isSome {left right : Value} :
    left.Comparable right ↔ (left.compareNullsFirst right).isSome := by
  rw [compareNullsFirst_eq_compareFirst?, Content.compareFirst?_isSome_iff,
    content?_eq_none_iff, content?_eq_none_iff]
  rfl

/-- Only numbers are identical without being the same. -/
theorem eq_or_numbers_of_identical {left right : Value}
    (agree : left.identical right = true) :
    left = right ∨ ∃ leftNumber rightNumber,
      left = .number leftNumber ∧ right = .number rightNumber ∧
        Ord.compare leftNumber rightNumber = .eq := by
  by_cases numbers : ∃ leftNumber rightNumber,
      left = .number leftNumber ∧ right = .number rightNumber
  · obtain ⟨leftNumber, rightNumber, rfl, rfl⟩ := numbers
    exact .inr ⟨leftNumber, rightNumber, rfl, rfl, beq_iff_eq.mp agree⟩
  · left
    cases left <;> cases right <;> simp_all [identical]

theorem content?_eq_of_identical {left right : Value}
    (agree : left.identical right = true) :
    left.content? = right.content? := by
  rcases eq_or_numbers_of_identical agree with
    same | ⟨leftNumber, rightNumber, rfl, rfl, equal⟩
  · rw [same]
  · rw [content?, content?, Decimal.compare_eq_eq_iff.mp equal]

theorem identical_refl (value : Value) : value.identical value = true := by
  cases value <;> simp [identical, Std.ReflOrd.compare_self]

end Value

end KeysetPaging
