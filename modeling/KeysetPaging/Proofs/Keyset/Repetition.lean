import KeysetPaging.Proofs.Keyset.StrictOrder

/-!
# Properties that an order names more than once

A sort order may name a property again, in another direction.  The sort never
comes to the second term, since it only compares entities that tie on the first.
The predicate looks the direction up in a map, and in the map the last term has
taken the place of the others.  So the two agree on all entities exactly when each
property has the direction of its first term in its last term as well.
-/

namespace KeysetPaging

namespace SortOrder

/-- The direction of the first term for a name. -/
def firstDirection? (order : SortOrder) (name : String) : Option Direction :=
  (order.find? (·.name == name)).map SortTerm.direction

/-- The direction of the last term for a name. -/
def lastDirection? (order : SortOrder) (name : String) : Option Direction :=
  (order.reverse.find? (·.name == name)).map SortTerm.direction

/-- Names in the directions that are given for them, ascending where none is. -/
def inDirections (direction? : String → Option Direction)
    (names : List String) : SortOrder :=
  names.map fun name => ⟨name, (direction? name).getD .ascending, false⟩

theorem get?_directions_eq_lastDirection? {order : SortOrder}
    (isStatic : ∀ term ∈ order, term.isDynamic = false) (name : String) :
    order.directions.get? name = order.lastDirection? name := by
  rw [directions, filter_isStatic isStatic, PropertyMap.get?_ofList,
    ← List.map_reverse, List.find?_map, Option.map_map]
  rfl

theorem isSome_firstDirection?_iff {order : SortOrder} {name : String} :
    (order.firstDirection? name).isSome = true ↔
      name ∈ order.map SortTerm.name := by
  rw [firstDirection?, Option.isSome_map, List.find?_isSome, List.mem_map]
  simp

theorem isSome_lastDirection?_iff {order : SortOrder} {name : String} :
    (order.lastDirection? name).isSome = true ↔
      name ∈ order.map SortTerm.name := by
  have reversed : (firstDirection? order.reverse name).isSome = true ↔
      name ∈ order.reverse.map SortTerm.name :=
    isSome_firstDirection?_iff
  rw [List.map_reverse, List.mem_reverse] at reversed
  exact reversed

theorem firstDirection?_cons (term : SortTerm) (order : SortOrder)
    (name : String) :
    firstDirection? (term :: order) name =
      if term.name = name then some term.direction
      else order.firstDirection? name := by
  by_cases same : term.name = name
  · simp [firstDirection?, same]
  · simp [firstDirection?, same]

theorem firstDirection?_append (order more : SortOrder) (name : String) :
    (order ++ more).firstDirection? name =
      (order.firstDirection? name).or (more.firstDirection? name) := by
  rw [firstDirection?, List.find?_append, Option.map_or]
  rfl

theorem firstTerms_eq_inDirections {order : SortOrder}
    (isStatic : ∀ term ∈ order, term.isDynamic = false) :
    order.firstTerms = inDirections order.firstDirection?
      (Strategy.distinct (order.map SortTerm.name)) := by
  induction order with
  | nil => rfl
  | cons term order induction =>
      obtain ⟨notDynamic, rest⟩ := List.forall_mem_cons.mp isStatic
      have head : term =
          ⟨term.name, (firstDirection? (term :: order) term.name).getD .ascending,
            false⟩ := by
        rw [firstDirection?_cons, if_pos rfl, ← notDynamic]
        rfl
      rw [firstTerms, List.map_cons, Strategy.distinct, induction rest,
        inDirections, inDirections, List.map_cons, ← head, List.filter_map]
      congr 1
      apply List.map_congr_left
      intro name member
      have other : name ≠ term.name :=
        of_decide_eq_true (List.mem_filter.mp member).2
      rw [firstDirection?_cons, if_neg other.symm]

theorem firstDirection?_ascending (names : List String) (name : String) :
    ((ascending names).firstDirection? name).getD .ascending = .ascending := by
  cases found : (ascending names).firstDirection? name with
  | none => rfl
  | some direction =>
      obtain ⟨term, first, rfl⟩ := Option.map_eq_some_iff.mp found
      obtain ⟨_, _, rfl⟩ := List.mem_map.mp (List.mem_of_find?_eq_some first)
      rfl

/-- Keys that an order names count for nothing after it. -/
theorem compareBy_append_missing (left right : String → Value)
    (order : SortOrder) (keys : List String) :
    (order ++ ascending (keys.filter (· ∉ order.map SortTerm.name))).compareBy
        left right = (order ++ ascending keys).compareBy left right := by
  rw [compareBy_append, compareBy_append]
  cases tie : order.compareBy left right with
  | lt => rfl
  | gt => rfl
  | eq =>
      have missing : ascending (keys.filter (· ∉ order.map SortTerm.name)) =
          (ascending keys).filter (·.name ∉ order.map SortTerm.name) := by
        rw [ascending, ascending, List.filter_map]
        rfl
      rw [missing]
      congr 1
      apply compareBy_filter
      intro term _ dropped
      have named : term.name ∈ order.map SortTerm.name :=
        Decidable.of_not_not (of_decide_eq_false dropped)
      obtain ⟨earlier, member, same⟩ := List.mem_map.mp named
      have tied := compareBy_eq_eq_iff_forall.mp tie earlier member
      rw [compareValues_eq_eq_iff] at tied
      rw [← same, compareValues_eq_eq_iff, tied]

theorem compareBy_append_keys {order : SortOrder}
    (isStatic : ∀ term ∈ order, term.isDynamic = false) (keys : List String)
    (left right : String → Value) :
    (order ++ ascending (keys.filter (· ∉ order.map SortTerm.name))).compareBy
        left right =
      (inDirections order.firstDirection?
        (Strategy.distinct (order.map SortTerm.name ++ keys))).compareBy
          left right := by
  have alsoStatic : ∀ term ∈ order ++ ascending keys,
      term.isDynamic = false := by
    intro term member
    rcases List.mem_append.mp member with inOrder | inKeys
    · exact isStatic term inOrder
    · obtain ⟨_, _, rfl⟩ := List.mem_map.mp inKeys
      rfl
  have names : (order ++ ascending keys).map SortTerm.name =
      order.map SortTerm.name ++ keys := by
    rw [List.map_append, ascending, List.map_map]
    exact congrArg _ (List.map_id keys)
  have directions (name : String) :
      ((order ++ ascending keys).firstDirection? name).getD .ascending =
        (order.firstDirection? name).getD .ascending := by
    rw [firstDirection?_append]
    cases order.firstDirection? name with
    | none => exact firstDirection?_ascending keys name
    | some direction => rfl
  rw [compareBy_append_missing, ← compareBy_firstTerms,
    firstTerms_eq_inDirections alsoStatic, names]
  simp only [inDirections, directions]

/-- An entity with one property. -/
def oneProperty (name : String) (value : Bool) : String → Value :=
  fun other => if other = name then .bool value else .null

/-- Entities with one property are told apart by the first term for it. -/
theorem compareBy_oneProperty_iff {order : SortOrder} {name : String} :
    order.compareBy (oneProperty name false) (oneProperty name true) = .lt ↔
      order.firstDirection? name = some .ascending := by
  induction order with
  | nil => simp [compareBy, firstDirection?]
  | cons term order induction =>
      rw [compareBy, firstDirection?_cons]
      by_cases same : term.name = name
      · have left : oneProperty name false term.name = .bool false := if_pos same
        have right : oneProperty name true term.name = .bool true := if_pos same
        rw [if_pos same, left, right]
        cases term.direction with
        | ascending => exact iff_of_true rfl rfl
        | descending =>
            apply iff_of_false
            · intro below
              cases below
            · intro same
              cases same
      · have left : oneProperty name false term.name = .null := if_neg same
        have right : oneProperty name true term.name = .null := if_neg same
        have tie : compareValues term.direction .null .null = .eq :=
          compareValues_eq_of_content? _ rfl
        rw [if_neg same, left, right, tie, Ordering.eq_then, induction]

theorem comparableAt_oneProperty (name : String) (names : List String) :
    Keyset.ComparableAt names (oneProperty name false)
      (oneProperty name true) := by
  intro other _
  by_cases same : other = name
  · rw [oneProperty, oneProperty, if_pos same, if_pos same]
    decide
  · rw [oneProperty, oneProperty, if_neg same, if_neg same]
    decide

theorem firstDirection?_inDirections {direction? : String → Option Direction}
    {names : List String} {name : String} (listed : name ∈ names) :
    (inDirections direction? names).firstDirection? name =
      some ((direction? name).getD .ascending) := by
  induction names with
  | nil => cases listed
  | cons first names induction =>
      rw [inDirections, List.map_cons, firstDirection?_cons]
      by_cases same : first = name
      · rw [if_pos same, same]
      · rw [if_neg same]
        exact induction ((List.mem_cons.mp listed).resolve_left (Ne.symm same))

end SortOrder

namespace Keyset

open SortOrder

/-- The keyset predicate made of the recorded properties of one entity selects
another. -/
def Selects (order : SortOrder) (names : List String) (parameterize : Bool)
    (left right : String → Value) : Prop :=
  ∃ predicate,
    predicate? (valuesOn names left) order parameterize = some predicate ∧
      predicate.evaluate right = .ok true

theorem selects_iff_compareBy {order : SortOrder} {names : List String}
    (distinct : names.Nodup) (parameterize : Bool)
    {left right : String → Value} (comparable : ComparableAt names left right) :
    Selects order names parameterize left right ↔
      (positionOrder order.directions names).compareBy left right = .lt := by
  rw [← isAfter_values_iff_compareBy comparable, ← entries_valuesOn distinct]
  constructor
  · intro ⟨predicate, built, evaluated⟩
    obtain ⟨selected, outcome, meaning⟩ := evaluate_predicate? built right
    rw [evaluated] at outcome
    cases outcome
    exact meaning.mp rfl
  · intro after
    have nonempty : names ≠ [] := by
      rintro rfl
      exact not_isAfter_nil _ _ after
    obtain ⟨predicate, built⟩ := exists_predicate?
      (isEmpty_valuesOn nonempty distinct left) order parameterize
    obtain ⟨selected, outcome, meaning⟩ := evaluate_predicate? built right
    rw [meaning.mpr after] at outcome
    exact ⟨predicate, built, outcome⟩

theorem positionOrder_eq_inDirections {order : SortOrder}
    (isStatic : ∀ term ∈ order, term.isDynamic = false) (names : List String) :
    positionOrder order.directions names =
      inDirections order.lastDirection? names := by
  apply List.map_congr_left
  intro name _
  rw [positionTerm, get?_directions_eq_lastDirection? isStatic]

theorem eq_of_ascending_iff {first last : Direction}
    (same : last = .ascending ↔ first = .ascending) : first = last := by
  cases first with
  | ascending => exact (same.mpr rfl).symm
  | descending =>
      cases last with
      | ascending => cases same.mp rfl
      | descending => rfl

/-- Two orders of the same names agree on all entities exactly when they give
each name the same direction. -/
theorem compareBy_inDirections_agree_iff
    (first? last? : String → Option Direction) (names : List String) :
    (∀ left right, ComparableAt names left right →
      ((inDirections last? names).compareBy left right = .lt ↔
        (inDirections first? names).compareBy left right = .lt)) ↔
      ∀ name ∈ names,
        (first? name).getD .ascending = (last? name).getD .ascending := by
  constructor
  · intro agree name listed
    have decided := agree _ _ (comparableAt_oneProperty name names)
    rw [compareBy_oneProperty_iff, compareBy_oneProperty_iff,
      firstDirection?_inDirections listed, firstDirection?_inDirections listed,
      Option.some.injEq, Option.some.injEq] at decided
    exact eq_of_ascending_iff decided
  · intro same left right _
    have orders : inDirections last? names = inDirections first? names := by
      apply List.map_congr_left
      intro name listed
      rw [same name listed]
    rw [orders]

theorem firstDirection?_eq_lastDirection?_iff {order : SortOrder}
    {name : String} :
    order.firstDirection? name = order.lastDirection? name ↔
      (name ∈ order.map SortTerm.name →
        (order.firstDirection? name).getD .ascending =
          (order.lastDirection? name).getD .ascending) := by
  by_cases listed : name ∈ order.map SortTerm.name
  · obtain ⟨first, isFirst⟩ := Option.isSome_iff_exists.mp
      (isSome_firstDirection?_iff.mpr listed)
    obtain ⟨last, isLast⟩ := Option.isSome_iff_exists.mp
      (isSome_lastDirection?_iff.mpr listed)
    simp [isFirst, isLast, listed]
  · have noFirst : order.firstDirection? name = none := by
      rw [← Option.not_isSome_iff_eq_none, isSome_firstDirection?_iff]
      exact listed
    have noLast : order.lastDirection? name = none := by
      rw [← Option.not_isSome_iff_eq_none, isSome_lastDirection?_iff]
      exact listed
    simp [noFirst, noLast]

/-- The predicate takes every property in the direction of its last term and the
sort takes it in the direction of its first one, so they agree on all entities
exactly when these are the same. -/
theorem selects_iff_sorted_after {type : EntityType} {order : SortOrder}
    {names : List String}
    (recorded : Strategy.recordedProperties? type (some order) = some names) :
    let missing := type.keys.filter (· ∉ order.map SortTerm.name)
    (∀ parameterize left right, ComparableAt names left right →
      (Selects order names parameterize left right ↔
        (inDirections order.lastDirection? names).compareBy left right =
          .lt)) ∧
      (∀ left right, (order ++ ascending missing).compareBy left right =
        (inDirections order.firstDirection? names).compareBy left right) ∧
        ((∀ parameterize left right, ComparableAt names left right →
          (Selects order names parameterize left right ↔
            (order ++ ascending missing).compareBy left right = .lt)) ↔
          ∀ name, order.firstDirection? name = order.lastDirection? name) := by
  intro missing
  obtain ⟨isStatic, same⟩ : (∀ term ∈ order, term.isDynamic = false) ∧
      Strategy.recordedNames type order = names :=
    Strategy.recordedProperties?_eq_some_iff.mp recorded
  have selects : ∀ parameterize left right, ComparableAt names left right →
      (Selects order names parameterize left right ↔
        (inDirections order.lastDirection? names).compareBy left right =
          .lt) := by
    intro parameterize left right comparable
    have distinct : names.Nodup := same ▸ Strategy.nodup_distinct _
    rw [selects_iff_compareBy distinct parameterize comparable,
      positionOrder_eq_inDirections isStatic]
  have sorts : ∀ left right,
      (order ++ ascending missing).compareBy left right =
        (inDirections order.firstDirection? names).compareBy left right := by
    intro left right
    rw [← same]
    exact compareBy_append_keys isStatic type.keys left right
  have agree := compareBy_inDirections_agree_iff order.firstDirection?
    order.lastDirection? names
  refine ⟨selects, sorts, ?_⟩
  constructor
  · intro agrees name
    apply firstDirection?_eq_lastDirection?_iff.mpr
    intro named
    have listed : name ∈ names :=
      same ▸ Strategy.mem_distinct.mpr (List.mem_append_left _ named)
    refine agree.mp ?_ name listed
    intro left right comparable
    rw [← sorts, ← selects false left right comparable]
    exact agrees false left right comparable
  · intro directions parameterize left right comparable
    rw [selects parameterize left right comparable, sorts]
    refine agree.mpr ?_ left right comparable
    intro name _
    rw [directions name]

def personType : EntityType :=
  (EntityType.new "Default" "Person")
    |>.key "id" .int64
    |>.property "age" .int64

def person (id age : Int64) (name : String) : Value :=
  if name = "id" then .ofInt64 id
  else if name = "age" then .ofInt64 age
  else .null

theorem comparableAt_person (names : List String) (id age id' age' : Int64) :
    ComparableAt names (person id age) (person id' age') := by
  have number (n : Int64) : (Value.ofInt64 n).kind? = some .number := rfl
  intro name _
  unfold person
  split
  · exact Value.comparable_of_kind (.inr (number id)) (.inr (number id'))
  · split
    · exact Value.comparable_of_kind (.inr (number age)) (.inr (number age'))
    · exact .inl rfl

/-- From the oldest down, where the age comes up again in the same direction. -/
theorem selects_iff_sorted_after_oldestFirst :
    let order : SortOrder :=
      [⟨"age", .descending, false⟩, ⟨"id", .descending, false⟩,
        ⟨"age", .descending, false⟩]
    Strategy.recordedProperties? personType (some order) =
        some ["age", "id"] ∧
      Selects order ["age", "id"] true (person 1 30) (person 2 20) := by
  intro order
  have recorded : Strategy.recordedProperties? personType (some order) =
      some ["age", "id"] := rfl
  obtain ⟨_, _, agree⟩ := selects_iff_sorted_after recorded
  refine ⟨recorded, ?_⟩
  have sameDirections : ∀ name,
      order.firstDirection? name = order.lastDirection? name := by
    intro name
    by_cases age : "age" = name
    · simp [order, firstDirection?, lastDirection?, age]
    · by_cases id : "id" = name
      · simp [order, firstDirection?, lastDirection?, age, id]
      · simp [order, firstDirection?, lastDirection?, age, id]
  apply (agree.mpr sameDirections true _ _ (comparableAt_person _ _ _ _ _)).mpr
  rfl

/-- Where the age comes up again in the other direction, the sort puts the older
of two persons first, and the predicate made of her does not select the other. -/
theorem selects_not_sorted_after :
    let order : SortOrder :=
      [⟨"age", .descending, false⟩, ⟨"age", .ascending, false⟩]
    Strategy.recordedProperties? personType (some order) =
        some ["age", "id"] ∧
      ComparableAt ["age", "id"] (person 1 30) (person 2 20) ∧
        (order ++ ascending ["id"]).compareBy (person 1 30) (person 2 20) =
          .lt ∧
          (∃ predicate,
            predicate? (valuesOn ["age", "id"] (person 1 30)) order false =
                some predicate ∧
              predicate.evaluate (person 2 20) = .ok false) ∧
            ¬ Selects order ["age", "id"] false (person 1 30) (person 2 20) := by
  intro order
  refine ⟨rfl, comparableAt_person _ _ _ _ _, rfl, ⟨_, rfl, rfl⟩, ?_⟩
  rintro ⟨predicate, ⟨⟩, evaluated⟩
  cases evaluated

end Keyset

end KeysetPaging
