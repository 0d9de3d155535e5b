import KeysetPaging.Proofs.Value.Order
import KeysetPaging.Query.Memory

/-!
# The order of entities

Entities are ordered by the first property of a sort order on which they
differ.  Values of different kinds tie, which costs the comparison its
transitivity; among entities whose values are comparable, property by property,
it is a total preorder, and the entities that tie are those equal on every
property of the order.
-/

namespace KeysetPaging

namespace SortOrder

theorem compareValues_swap (direction : Direction) (left right : Value) :
    compareValues direction right left =
      (compareValues direction left right).swap := by
  cases direction with
  | ascending =>
      rw [compareValues, compareValues, Value.compareNullsFirst_swap left right]
      cases left.compareNullsFirst right <;> rfl
  | descending =>
      rw [compareValues, compareValues, Value.compareNullsFirst_swap right left]
      cases right.compareNullsFirst left <;> rfl

theorem compareValues_congr {left left' right right' : Value}
    (direction : Direction) (leftSame : left.content? = left'.content?)
    (rightSame : right.content? = right'.content?) :
    compareValues direction left right =
      compareValues direction left' right' := by
  cases direction with
  | ascending =>
      rw [compareValues, compareValues,
        Value.compareNullsFirst_congr leftSame rightSame]
  | descending =>
      rw [compareValues, compareValues,
        Value.compareNullsFirst_congr rightSame leftSame]

theorem compareValues_lt_iff {direction : Direction} {left right : Value} :
    compareValues direction left right = .lt ↔
      match direction with
      | .ascending => left.compareNullsFirst right = some .lt
      | .descending => right.compareNullsFirst left = some .lt := by
  cases direction with
  | ascending => cases compared : left.compareNullsFirst right <;>
      simp [compareValues, compared]
  | descending => cases compared : right.compareNullsFirst left <;>
      simp [compareValues, compared]

theorem compareValues_lt_trans {direction : Direction}
    {left middle right : Value}
    (first : compareValues direction left middle = .lt)
    (second : compareValues direction middle right = .lt) :
    compareValues direction left right = .lt := by
  rw [compareValues_lt_iff] at first second ⊢
  cases direction with
  | ascending => exact Value.compareNullsFirst_lt_trans first second
  | descending => exact Value.compareNullsFirst_lt_trans second first

theorem compareValues_eq_eq_iff {direction : Direction} {left right : Value} :
    compareValues direction left right = .eq ↔
      (left.compareNullsFirst right).getD .eq = .eq := by
  cases direction with
  | ascending => rfl
  | descending =>
      rw [compareValues, Value.compareNullsFirst_swap left right]
      cases left.compareNullsFirst right with
      | none => rfl
      | some order => exact Ordering.swap_eq_eq

theorem content?_eq_of_compareValues {direction : Direction}
    {left right : Value} (comparable : left.Comparable right)
    (tie : compareValues direction left right = .eq) :
    left.content? = right.content? := by
  rw [← Value.compareNullsFirst_eq_eq_iff]
  obtain ⟨order, compared⟩ :=
    Option.isSome_iff_exists.mp (Value.comparable_iff_isSome.mp comparable)
  rw [compareValues_eq_eq_iff, compared, Option.getD_some] at tie
  rw [compared, tie]

theorem compareValues_eq_of_content? {left right : Value}
    (direction : Direction) (same : left.content? = right.content?) :
    compareValues direction left right = .eq := by
  have equal : right.compareNullsFirst right = some .eq :=
    Value.compareNullsFirst_eq_eq_iff.mpr rfl
  rw [compareValues_congr direction same rfl]
  cases direction with
  | ascending => rw [compareValues, equal, Option.getD_some]
  | descending => rw [compareValues, equal, Option.getD_some]

/-- Two entities, given by the values of their properties, have comparable
values for every property of an order. -/
def ComparableOn (order : SortOrder) (left right : String → Value) : Prop :=
  ∀ term ∈ order, (left term.name).Comparable (right term.name)

def EqualOn (order : SortOrder) (left right : String → Value) : Prop :=
  ∀ term ∈ order, (left term.name).equals (right term.name) = true

theorem ComparableOn.tail {term : SortTerm} {order : SortOrder}
    {left right : String → Value}
    (comparable : ComparableOn (term :: order) left right) :
    order.ComparableOn left right :=
  fun other member => comparable other (List.mem_cons_of_mem term member)

theorem compareBy_swap (left right : String → Value) (order : SortOrder) :
    order.compareBy right left = (order.compareBy left right).swap := by
  induction order with
  | nil => rfl
  | cons term order induction =>
      rw [compareBy, compareBy, compareValues_swap, induction,
        Ordering.swap_then]

theorem compareBy_self (entity : String → Value) (order : SortOrder) :
    order.compareBy entity entity = .eq := by
  have swapped := compareBy_swap entity entity order
  cases compared : order.compareBy entity entity with
  | lt =>
      rw [compared] at swapped
      cases swapped
  | eq => rfl
  | gt =>
      rw [compared] at swapped
      cases swapped

theorem compareBy_append (left right : String → Value)
    (order more : SortOrder) :
    (order ++ more).compareBy left right =
      (order.compareBy left right).then (more.compareBy left right) := by
  induction order with
  | nil => rfl
  | cons term order induction =>
      rw [List.cons_append, compareBy, compareBy, induction,
        Ordering.then_assoc]

theorem compareBy_congr {left left' right right' : String → Value}
    {order : SortOrder}
    (leftSame : ∀ term ∈ order,
      (left term.name).content? = (left' term.name).content?)
    (rightSame : ∀ term ∈ order,
      (right term.name).content? = (right' term.name).content?) :
    order.compareBy left right = order.compareBy left' right' := by
  induction order with
  | nil => rfl
  | cons term order induction =>
      rw [compareBy, compareBy,
        compareValues_congr term.direction (leftSame term List.mem_cons_self)
          (rightSame term List.mem_cons_self),
        induction (fun other member =>
            leftSame other (List.mem_cons_of_mem term member))
          (fun other member =>
            rightSame other (List.mem_cons_of_mem term member))]

theorem compareBy_eq_eq_iff_forall {left right : String → Value}
    {order : SortOrder} :
    order.compareBy left right = .eq ↔
      ∀ term ∈ order,
        compareValues term.direction (left term.name) (right term.name) =
          .eq := by
  induction order with
  | nil => simp [compareBy]
  | cons term order induction =>
      rw [compareBy, Ordering.then_eq_eq, induction, List.forall_mem_cons]

theorem compareBy_eq_eq_iff {left right : String → Value} {order : SortOrder}
    (comparable : order.ComparableOn left right) :
    order.compareBy left right = .eq ↔ order.EqualOn left right := by
  rw [compareBy_eq_eq_iff_forall]
  refine forall₂_congr fun term member => ?_
  rw [Value.equals_iff_content?]
  exact ⟨content?_eq_of_compareValues (comparable term member),
    compareValues_eq_of_content? term.direction⟩

theorem compareBy_lt_trans {left middle right : String → Value}
    {order : SortOrder} (leftComparable : order.ComparableOn left middle)
    (rightComparable : order.ComparableOn middle right)
    (first : order.compareBy left middle = .lt)
    (second : order.compareBy middle right = .lt) :
    order.compareBy left right = .lt := by
  induction order with
  | nil => cases first
  | cons term order induction =>
      have leftHead := leftComparable term List.mem_cons_self
      have rightHead := rightComparable term List.mem_cons_self
      rw [compareBy, Ordering.then_eq_lt] at first second ⊢
      rcases first with below | ⟨tie, below⟩
      · rcases second with above | ⟨tie, _⟩
        · exact .inl (compareValues_lt_trans below above)
        · left
          rwa [← compareValues_congr term.direction rfl
            (content?_eq_of_compareValues rightHead tie)]
      · rcases second with above | ⟨tie', above⟩
        · left
          rwa [compareValues_congr term.direction
            (content?_eq_of_compareValues leftHead tie) rfl]
        · refine .inr ⟨?_, induction leftComparable.tail rightComparable.tail
            below above⟩
          exact compareValues_eq_of_content? term.direction
            ((content?_eq_of_compareValues leftHead tie).trans
              (content?_eq_of_compareValues rightHead tie'))

end SortOrder

end KeysetPaging
