import KeysetPaging.Proofs.Keyset.Order

/-!
# The two sides of a page boundary

A boundary is told by the values of one entity for some properties, and the
keyset predicate made of them decides on which side of it another entity lies.
The relation between the two is a strict total order: of two entities that are
not equal on the properties exactly one lies after the other.

Only one of the two entities has its enum members unwrapped, and the mixed
directions come from a map that may leave properties out, so neither law can be
read off the predicate.  Between comparable entities it is the comparison of the
sort order that the properties stand for, and the laws are those of that
comparison.
-/

namespace KeysetPaging

namespace Keyset

/-- The values that an entity has for some properties. -/
def valuesOn (names : List String) (entity : String → Value) :
    PropertyMap Value :=
  .ofList (names.map fun name => (name, entity name))

/-- Two entities have comparable values for each of some properties. -/
def ComparableAt (names : List String) (left right : String → Value) : Prop :=
  ∀ name ∈ names, (left name).Comparable (right name)

/-- Two entities have equal values for each of some properties. -/
def EqualAt (names : List String) (left right : String → Value) : Prop :=
  ∀ name ∈ names, (left name).equals (right name) = true

/-- One of three statements is true, and the other two are not. -/
def ExactlyOne (first second third : Prop) : Prop :=
  (first ∧ ¬ second ∧ ¬ third) ∨ (¬ first ∧ second ∧ ¬ third) ∨
    (¬ first ∧ ¬ second ∧ third)

/-- A relation orders entities strictly and totally by some properties.  It
tells no entities apart that are equal on them, and takes no others for
equal. -/
structure OrdersStrictly (names : List String)
    (after : (String → Value) → (String → Value) → Bool) : Prop where
  trichotomous : ∀ left right, ComparableAt names left right →
    ExactlyOne (after left right = true) (after right left = true)
      (EqualAt names left right)
  transitive : ∀ first second third, ComparableAt names first second →
    ComparableAt names second third → ComparableAt names first third →
      after first second = true → after second third = true →
        after first third = true
  congruent : ∀ left other right, EqualAt names left other →
    after left right = after other right

theorem map_fst_values (names : List String) (entity : String → Value) :
    (names.map fun name => (name, entity name)).map Prod.fst = names := by
  rw [List.map_map]
  exact List.map_id names

theorem entries_valuesOn {names : List String} (distinct : names.Nodup)
    (entity : String → Value) :
    (valuesOn names entity).entries =
      names.map fun name => (name, entity name) := by
  apply PropertyMap.entries_ofList
  rwa [map_fst_values]

theorem isEmpty_valuesOn {names : List String} (nonempty : names ≠ [])
    (distinct : names.Nodup) (entity : String → Value) :
    (valuesOn names entity).isEmpty = false := by
  rw [PropertyMap.isEmpty, entries_valuesOn distinct]
  simpa using nonempty

section Positions

variable {directions : PropertyMap Direction} {names : List String}
  {left right : String → Value}

theorem comparableOn_positionOrder (comparable : ComparableAt names left right) :
    (positionOrder directions names).ComparableOn left right := by
  intro term member
  obtain ⟨name, listed, rfl⟩ := List.mem_map.mp member
  exact comparable name listed

theorem equalOn_positionOrder_iff :
    (positionOrder directions names).EqualOn left right ↔
      EqualAt names left right :=
  List.forall_mem_map

theorem isAfter_values_iff_compareBy
    (comparable : ComparableAt names left right) :
    IsAfter directions right (names.map fun name => (name, left name)) ↔
      (positionOrder directions names).compareBy left right = .lt := by
  rw [isAfter_iff_compareBy left, map_fst_values]
  · intro field member
    obtain ⟨name, _, rfl⟩ := List.mem_map.mp member
    rfl
  · intro field member
    obtain ⟨name, listed, rfl⟩ := List.mem_map.mp member
    exact comparable name listed

theorem isAfter_trichotomy (directions : PropertyMap Direction)
    (comparable : ComparableAt names left right) :
    ExactlyOne
      (IsAfter directions right (names.map fun name => (name, left name)))
      (IsAfter directions left (names.map fun name => (name, right name)))
      (EqualAt names left right) := by
  have onOrder : (positionOrder directions names).ComparableOn left right :=
    comparableOn_positionOrder comparable
  have reverse : ComparableAt names right left :=
    fun name listed => (comparable name listed).symm
  rw [isAfter_values_iff_compareBy comparable,
    isAfter_values_iff_compareBy reverse, ← equalOn_positionOrder_iff,
    ← SortOrder.compareBy_eq_eq_iff onOrder, SortOrder.compareBy_swap left right,
    Ordering.swap_eq_lt]
  cases (positionOrder directions names).compareBy left right <;>
    simp [ExactlyOne]

theorem isAfter_trans {middle : String → Value}
    (leftComparable : ComparableAt names left middle)
    (rightComparable : ComparableAt names middle right)
    (comparable : ComparableAt names left right)
    (first : IsAfter directions middle (names.map fun name => (name, left name)))
    (second :
      IsAfter directions right (names.map fun name => (name, middle name))) :
    IsAfter directions right (names.map fun name => (name, left name)) := by
  rw [isAfter_values_iff_compareBy leftComparable] at first
  rw [isAfter_values_iff_compareBy rightComparable] at second
  rw [isAfter_values_iff_compareBy comparable]
  exact SortOrder.compareBy_lt_trans (comparableOn_positionOrder leftComparable)
    (comparableOn_positionOrder rightComparable) first second

/-- Equal entities tell the same position, to whatever it is compared. -/
theorem isAfter_congr {other : String → Value}
    (equal : EqualAt names left other) :
    IsAfter directions right (names.map fun name => (name, left name)) ↔
      IsAfter directions right (names.map fun name => (name, other name)) := by
  induction names with
  | nil => rfl
  | cons name names induction =>
      obtain ⟨first, rest⟩ := List.forall_mem_cons.mp equal
      have same := Value.equals_iff_content?.mp first
      have agrees : (right name).equals (left name).unwrapEnum = true ↔
          (right name).equals (other name).unwrapEnum = true := by
        rw [Value.equals_iff_content?, Value.equals_iff_content?,
          Value.content?_unwrapEnum, Value.content?_unwrapEnum, same]
      rw [List.map_cons, List.map_cons, isAfter_cons_iff, isAfter_cons_iff,
        beyond_iff_compareValues same, beyond_iff_compareValues rfl, agrees,
        induction rest]

end Positions

open Classical in
/-- The predicate made of the values of one entity is there and evaluates on
every other, in either spelling, and what it says of pairs of entities orders
them strictly and totally by the properties. -/
theorem predicate?_ordersStrictly (order : SortOrder) {names : List String}
    (nonempty : names ≠ []) (distinct : names.Nodup) :
    ∃ after : (String → Value) → (String → Value) → Bool,
      (∀ parameterize left right, ∃ predicate,
        predicate? (valuesOn names left) order parameterize = some predicate ∧
          predicate.evaluate right = .ok (after left right)) ∧
        OrdersStrictly names after := by
  let after (left right : String → Value) : Bool :=
    IsAfter order.directions right (names.map fun name => (name, left name))
  have after_iff (left right : String → Value) : after left right = true ↔
      IsAfter order.directions right
        (names.map fun name => (name, left name)) :=
    decide_eq_true_iff
  refine ⟨after, ?_, ?_, ?_, ?_⟩
  · intro parameterize left right
    obtain ⟨predicate, built⟩ := exists_predicate?
      (isEmpty_valuesOn nonempty distinct left) order parameterize
    obtain ⟨selected, evaluated, meaning⟩ := evaluate_predicate? built right
    rw [entries_valuesOn distinct, ← after_iff, ← Bool.eq_iff_iff] at meaning
    exact ⟨predicate, built, meaning ▸ evaluated⟩
  · intro left right comparable
    rw [after_iff, after_iff]
    exact isAfter_trichotomy order.directions comparable
  · intro first second third firstComparable secondComparable comparable
    rw [after_iff, after_iff, after_iff]
    exact isAfter_trans firstComparable secondComparable comparable
  · intro left other right equal
    rw [Bool.eq_iff_iff, after_iff, after_iff]
    exact isAfter_congr equal

/-- A member of a club, with a rank that is missing, a number or an enum
member. -/
def clubMember (rank : Value) (id : Int64) (name : String) : Value :=
  if name = "id" then .ofInt64 id
  else if name = "rank" then rank
  else .null

/-- From the highest rank down and by number within a rank, a member of rank
gold lies before a later one of rank two, which is the same rank, and both lie
before a member without a rank. -/
theorem predicate?_orders_clubMembers :
    let gold := clubMember (.enum ⟨"Club.Rank", "gold", 2⟩) 1
    let second := clubMember (.ofInt64 2) 5
    let unranked := clubMember .null 3
    ∃ after : (String → Value) → (String → Value) → Bool,
      (∀ parameterize left right, ∃ predicate,
        predicate? (valuesOn ["rank", "id"] left)
            [⟨"rank", .descending, false⟩] parameterize = some predicate ∧
          predicate.evaluate right = .ok (after left right)) ∧
        OrdersStrictly ["rank", "id"] after ∧
          after gold second = true ∧ after second unranked = true ∧
            after unranked gold = false := by
  intro gold second unranked
  have nonempty : ["rank", "id"] ≠ [] := by decide
  obtain ⟨after, evaluates, orders⟩ :=
    predicate?_ordersStrictly [⟨"rank", .descending, false⟩] nonempty (by decide)
  have decided {left right : String → Value} {selected : Bool}
      (evaluated : ∀ predicate, predicate? (valuesOn ["rank", "id"] left)
          [⟨"rank", .descending, false⟩] false = some predicate →
            predicate.evaluate right = .ok selected) :
      after left right = selected := by
    obtain ⟨predicate, built, outcome⟩ := evaluates false left right
    rw [evaluated predicate built] at outcome
    exact (Except.ok.inj outcome).symm
  refine ⟨after, evaluates, orders, decided ?_, decided ?_, decided ?_⟩
  · rintro predicate ⟨⟩
    rfl
  · rintro predicate ⟨⟩
    rfl
  · rintro predicate ⟨⟩
    rfl

end Keyset

end KeysetPaging
