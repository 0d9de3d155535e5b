import KeysetPaging.Proofs.Keyset.After
import KeysetPaging.Proofs.PropertyMap
import KeysetPaging.Proofs.Query.Order
import KeysetPaging.Proofs.Token.Strategy

/-!
# The order of positions

A token records the properties of the sort order and then the missing keys, and
the entities after it are those after it in one longer sort order: that of the
query, followed by the keys ascending.  A key that the query sorts by already
does not count again, whatever its direction there, since it only comes up
between entities that agree on it.
-/

namespace KeysetPaging

namespace SortOrder

theorem compareBy_filter {left right : String → Value} {order : SortOrder}
    {keep : SortTerm → Bool}
    (tied : ∀ term ∈ order, keep term = false →
      compareValues term.direction (left term.name) (right term.name) = .eq) :
    compareBy left right (order.filter keep) = order.compareBy left right := by
  induction order with
  | nil => rfl
  | cons term order induction =>
      have rest := induction fun other member =>
        tied other (List.mem_cons_of_mem term member)
      by_cases kept : keep term = true
      · rw [List.filter_cons_of_pos kept, compareBy, compareBy, rest]
      · have tie := tied term List.mem_cons_self (Bool.not_eq_true _ ▸ kept)
        rw [List.filter_cons_of_neg kept, rest, compareBy, tie]
        rfl

/-- Of the terms for one name, the first. -/
def firstTerms : SortOrder → SortOrder
  | [] => []
  | term :: order => term :: (firstTerms order).filter (·.name ≠ term.name)

/-- A name that comes up again decides nothing, whatever its direction. -/
theorem compareBy_firstTerms (left right : String → Value)
    (order : SortOrder) :
    order.firstTerms.compareBy left right = order.compareBy left right := by
  induction order with
  | nil => rfl
  | cons term order induction =>
      rw [firstTerms, compareBy, compareBy, ← induction]
      cases first : compareValues term.direction (left term.name)
          (right term.name) with
      | lt => rfl
      | gt => rfl
      | eq =>
          congr 1
          apply compareBy_filter
          intro other _ dropped
          have same : other.name = term.name :=
            Decidable.of_not_not (of_decide_eq_false dropped)
          rw [compareValues_eq_eq_iff] at first
          rw [same, compareValues_eq_eq_iff, first]

def ascending (names : List String) : SortOrder :=
  names.map fun name => ⟨name, .ascending, false⟩

section Directions

variable {order : SortOrder}
  (isStatic : ∀ term ∈ order, term.isDynamic = false)
  (distinct : (order.map SortTerm.name).Nodup)

include isStatic in
theorem filter_isStatic : (order.filter fun term => !term.isDynamic) = order :=
  List.filter_eq_self.mpr fun term member => by simp [isStatic term member]

include isStatic distinct in
theorem entries_directions :
    order.directions.entries =
      order.map fun term => (term.name, term.direction) := by
  rw [directions, filter_isStatic isStatic]
  apply PropertyMap.entries_ofList
  rw [List.map_map]
  exact distinct

include isStatic distinct in
theorem get?_directions {term : SortTerm} (member : term ∈ order) :
    order.directions.get? term.name = some term.direction := by
  apply PropertyMap.get?_eq_some_iff.mpr
  rw [entries_directions isStatic distinct]
  exact List.mem_map.mpr ⟨term, member, rfl⟩

include isStatic distinct in
theorem get?_directions_of_not_mem {name : String}
    (absent : name ∉ order.map SortTerm.name) :
    order.directions.get? name = none := by
  apply PropertyMap.get?_eq_none
  rw [PropertyMap.names, entries_directions isStatic distinct, List.map_map]
  exact absent

end Directions

end SortOrder

namespace Keyset

/-- The sort term that a recorded property stands for: its direction in the
query, and ascending for a property that the query does not sort by. -/
def positionTerm (directions : PropertyMap Direction) (name : String) :
    SortTerm :=
  ⟨name, (directions.get? name).getD .ascending, false⟩

def positionOrder (directions : PropertyMap Direction) (names : List String) :
    SortOrder :=
  names.map (positionTerm directions)

theorem positionOrder_cons (directions : PropertyMap Direction) (name : String)
    (names : List String) :
    positionOrder directions (name :: names) =
      positionTerm directions name :: positionOrder directions names := rfl

open SortOrder in
theorem beyond_iff_compareValues {directions : PropertyMap Direction}
    {name : String} {value recorded actual : Value}
    (same : value.content? = recorded.content?) :
    Beyond (directions.get? name) value.unwrapEnum actual ↔
      compareValues (positionTerm directions name).direction recorded actual =
        .lt := by
  have unwrapped : value.unwrapEnum.content? = recorded.content? := by
    rw [Value.content?_unwrapEnum, same]
  rw [compareValues_lt_iff, positionTerm]
  rcases directions.get? name with _ | _ | _
  · change value.unwrapEnum.Precedes actual ↔ _
    rw [Value.precedes_iff_compareNullsFirst,
      Value.compareNullsFirst_congr unwrapped rfl]
    rfl
  · change value.unwrapEnum.Precedes actual ↔ _
    rw [Value.precedes_iff_compareNullsFirst,
      Value.compareNullsFirst_congr unwrapped rfl]
    rfl
  · change actual.Precedes value.unwrapEnum ↔ _
    rw [Value.precedes_iff_compareNullsFirst,
      Value.compareNullsFirst_congr rfl unwrapped]
    rfl

open SortOrder in
/-- To lie after a position is to follow it in its sort order. -/
theorem isAfter_iff_compareBy {directions : PropertyMap Direction}
    {fields : List (String × Value)} (recorded : String → Value)
    {actual : String → Value}
    (records : ∀ field ∈ fields,
      field.2.content? = (recorded field.1).content?)
    (comparable : ∀ field ∈ fields,
      (recorded field.1).Comparable (actual field.1)) :
    IsAfter directions actual fields ↔
      (positionOrder directions (fields.map Prod.fst)).compareBy recorded
        actual = .lt := by
  induction fields with
  | nil =>
      refine iff_of_false (not_isAfter_nil _ _) ?_
      simp [positionOrder, compareBy]
  | cons field fields induction =>
      obtain ⟨name, value⟩ := field
      have same := records (name, value) List.mem_cons_self
      have related := comparable (name, value) List.mem_cons_self
      have rest := induction
        (fun other member => records other (List.mem_cons_of_mem _ member))
        (fun other member => comparable other (List.mem_cons_of_mem _ member))
      have agrees : (actual name).equals value.unwrapEnum = true ↔
          compareValues (positionTerm directions name).direction
            (recorded name) (actual name) = .eq := by
        rw [Value.equals_iff_content?, Value.content?_unwrapEnum, same]
        constructor
        · intro equal
          exact compareValues_eq_of_content? _ equal.symm
        · intro tie
          exact (content?_eq_of_compareValues related tie).symm
      rw [isAfter_cons_iff, beyond_iff_compareValues same, agrees, rest,
        List.map_cons, positionOrder_cons, compareBy, Ordering.then_eq_lt]
      rfl

open SortOrder in
theorem positionOrder_distinct (directions : PropertyMap Direction)
    (names : List String) :
    positionOrder directions (Strategy.distinct names) =
      firstTerms (positionOrder directions names) := by
  induction names with
  | nil => rfl
  | cons name names induction =>
      rw [Strategy.distinct, positionOrder_cons, positionOrder_cons, firstTerms,
        ← induction, positionOrder, positionOrder, List.filter_map]
      rfl

section Recorded

variable {order : SortOrder}
  (isStatic : ∀ term ∈ order, term.isDynamic = false)
  (distinct : (order.map SortTerm.name).Nodup)

open SortOrder

include isStatic distinct in
theorem positionOrder_names :
    positionOrder order.directions (order.map SortTerm.name) = order := by
  rw [positionOrder, List.map_map]
  refine (List.map_congr_left ?_).trans (List.map_id order)
  intro term member
  have direction := get?_directions isStatic distinct member
  have notDynamic := isStatic term member
  obtain ⟨name, direction, isDynamic⟩ := term
  simp_all [positionTerm]

include isStatic distinct in
/-- Between entities that an order ties, keys count as ascending. -/
theorem compareBy_positionOrder_keys {left right : String → Value}
    (equal : order.EqualOn left right) (keys : List String) :
    (positionOrder order.directions keys).compareBy left right =
      (ascending keys).compareBy left right := by
  induction keys with
  | nil => rfl
  | cons key keys induction =>
      have first : compareValues (positionTerm order.directions key).direction
          (left key) (right key) =
            compareValues .ascending (left key) (right key) := by
        by_cases ordered : key ∈ order.map SortTerm.name
        · obtain ⟨term, member, rfl⟩ := List.mem_map.mp ordered
          have same := Value.equals_iff_content?.mp (equal term member)
          rw [compareValues_eq_of_content? _ same,
            compareValues_eq_of_content? _ same]
        · rw [positionTerm,
            get?_directions_of_not_mem isStatic distinct ordered,
            Option.getD_none]
      rw [positionOrder_cons, ascending, List.map_cons, compareBy, compareBy,
        ← ascending, induction]
      exact congrArg (Ordering.then · _) first

include isStatic distinct in
/-- The entities after a recorded one are those after it in the order of the
query followed by the keys ascending. -/
theorem isAfter_iff_compareBy_append {keys : List String}
    {values : PropertyMap Value} {recorded actual : String → Value}
    (names : values.names =
      Strategy.distinct (order.map SortTerm.name ++ keys))
    (records : ∀ field ∈ values.entries,
      (recorded field.1).identical field.2 = true)
    (comparable : (order ++ ascending keys).ComparableOn recorded actual) :
    IsAfter order.directions actual values.entries ↔
      (order ++ ascending keys).compareBy recorded actual = .lt := by
  have onOrder : order.ComparableOn recorded actual :=
    fun term member => comparable term (List.mem_append_left _ member)
  rw [isAfter_iff_compareBy recorded, ← PropertyMap.names, names,
    positionOrder_distinct, compareBy_firstTerms, positionOrder, List.map_append,
    ← positionOrder, ← positionOrder, positionOrder_names isStatic distinct,
    compareBy_append, compareBy_append, Ordering.then_eq_lt,
    Ordering.then_eq_lt]
  · refine or_congr_right (and_congr_right fun tie => ?_)
    have equal := (compareBy_eq_eq_iff onOrder).mp tie
    rw [compareBy_positionOrder_keys isStatic distinct equal]
  · intro field member
    exact (Value.content?_eq_of_identical (records field member)).symm
  · intro field member
    have listed : field.1 ∈ values.names := List.mem_map.mpr ⟨field, member, rfl⟩
    rw [names, Strategy.mem_distinct, List.mem_append] at listed
    rcases listed with ordered | key
    · obtain ⟨term, termMember, same⟩ := List.mem_map.mp ordered
      rw [← same]
      exact onOrder term termMember
    · exact comparable ⟨field.1, .ascending, false⟩
        (List.mem_append_right _ (List.mem_map.mpr ⟨field.1, key, rfl⟩))

end Recorded

end Keyset

end KeysetPaging
