import KeysetPaging.Entity
import KeysetPaging.Keyset
import KeysetPaging.Proofs.Filter.Evaluation

/-!
# What the keyset predicate selects

An entity lies after a recorded position when it agrees with the position on
the fields before some field and lies beyond it on that one.  The keyset
predicate is built by a loop that grows a disjunction and a conjunction of
equalities side by side; this module shows that evaluating its outcome decides
the relation, on every entity and without a fault.
-/

namespace KeysetPaging

namespace Keyset

/-- A value is beyond a recorded one when it precedes it on a descending
property, and when the recorded one precedes it on any other. -/
def Beyond (direction? : Option Direction) (recorded actual : Value) : Prop :=
  match direction? with
  | some .descending => actual.Precedes recorded
  | _ => recorded.Precedes actual

/-- An entity, given by the values of its properties, lies strictly after the
position that recorded fields describe.  Recorded enum members count as their
integers. -/
def IsAfter (directions : PropertyMap Direction) (actual : String → Value)
    (fields : List (String × Value)) : Prop :=
  ∃ (index : Nat) (inside : index < fields.length),
    (∀ (earlier : Nat) (before : earlier < index),
      (actual fields[earlier].1).equals fields[earlier].2.unwrapEnum = true) ∧
    Beyond (directions.get? fields[index].1) fields[index].2.unwrapEnum
      (actual fields[index].1)

theorem not_isAfter_nil (directions : PropertyMap Direction)
    (actual : String → Value) : ¬ IsAfter directions actual [] := by
  rintro ⟨index, inside, _⟩
  exact Nat.not_lt_zero index inside

/-- An entity lies after a position when its first field is beyond, or when it
agrees there and lies after the position of the other fields. -/
theorem isAfter_cons_iff {directions : PropertyMap Direction}
    {actual : String → Value} {name : String} {value : Value}
    {rest : List (String × Value)} :
    IsAfter directions actual ((name, value) :: rest) ↔
      Beyond (directions.get? name) value.unwrapEnum (actual name) ∨
        (actual name).equals value.unwrapEnum = true ∧
          IsAfter directions actual rest := by
  constructor
  · rintro ⟨index, inside, agree, beyond⟩
    cases index with
    | zero => exact .inl beyond
    | succ index =>
        refine .inr ⟨agree 0 (Nat.succ_pos index), index,
          Nat.lt_of_succ_lt_succ inside, ?_, beyond⟩
        intro earlier before
        exact agree (earlier + 1) (Nat.succ_lt_succ before)
  · rintro (beyond | ⟨first, index, inside, agree, beyond⟩)
    · exact ⟨0, Nat.succ_pos _, fun _ before => absurd before (Nat.not_lt_zero _),
        beyond⟩
    · refine ⟨index + 1, Nat.succ_lt_succ inside, ?_, beyond⟩
      intro earlier before
      cases earlier with
      | zero => exact first
      | succ earlier => exact agree earlier (Nat.lt_of_succ_lt_succ before)

theorem holds_afterOperator_iff {direction? : Option Direction}
    {recorded actual : Value} :
    (afterOperator direction?).holds actual recorded = true ↔
      Beyond direction? recorded actual := by
  rcases direction? with _ | _ | _
  · change _ ↔ recorded.Precedes actual
    rw [Value.precedes_iff_compareNullsFirst_gt]
    exact beq_iff_eq
  · change _ ↔ recorded.Precedes actual
    rw [Value.precedes_iff_compareNullsFirst_gt]
    exact beq_iff_eq
  · change _ ↔ actual.Precedes recorded
    rw [Value.precedes_iff_compareNullsFirst]
    exact beq_iff_eq

/-- The outcome of a filter that may be absent. -/
def evaluateOr (absent : Bool) (actual : String → Value) :
    Option Filter → Except FilterFault Bool
  | none => .ok absent
  | some filter => filter.evaluate actual

theorem evaluate_join_and {actual : String → Value} {equal : Option Filter}
    {filter : Filter} {agrees holds : Bool}
    (equalResult : evaluateOr true actual equal = .ok agrees)
    (filterResult : filter.evaluate actual = .ok holds) :
    (join .and equal filter).evaluate actual = .ok (agrees && holds) := by
  cases equal with
  | none =>
      cases equalResult
      simpa [join] using filterResult
  | some equal => exact Filter.evaluate_and equalResult filterResult

theorem evaluate_join_or {actual : String → Value} {found : Option Filter}
    {filter : Filter} {selected holds : Bool}
    (foundResult : evaluateOr false actual found = .ok selected)
    (filterResult : filter.evaluate actual = .ok holds) :
    (join .or found filter).evaluate actual = .ok (selected || holds) := by
  cases found with
  | none =>
      cases foundResult
      simpa [join] using filterResult
  | some found => exact Filter.evaluate_or foundResult filterResult

@[simp] theorem constant?_constant (parameterize : Bool) (index : Nat)
    (value : Value) :
    (constant parameterize index value).constant? = some value.unwrapEnum := by
  cases parameterize <;> rfl

theorem evaluate_compare_constant (actual : String → Value) (name : String)
    (operator : Comparison) (parameterize : Bool) (index : Nat)
    (value : Value) :
    (Filter.compare (.property name) operator
        (constant parameterize index value)).evaluate actual =
      .ok (operator.holds (actual name) value.unwrapEnum) :=
  Filter.evaluate_compare (constant?_constant parameterize index value) operator

/-- The loop of the predicate, from any point on: what it has found so far, or
agreement so far and a position further on. -/
theorem evaluate_predicateFrom (directions : PropertyMap Direction)
    (parameterize : Bool) (actual : String → Value)
    (fields : List (String × Value)) :
    ∀ (index : Nat) (equal found : Option Filter) (agrees selected : Bool),
      evaluateOr true actual equal = .ok agrees →
      evaluateOr false actual found = .ok selected →
      ∃ result,
        evaluateOr false actual
            (predicateFrom directions parameterize index equal found fields) =
          .ok result ∧
        (result = true ↔
          selected = true ∨ agrees = true ∧ IsAfter directions actual fields) := by
  induction fields with
  | nil =>
      intro index equal found agrees selected _ foundResult
      refine ⟨selected, foundResult, ?_⟩
      simp [not_isAfter_nil]
  | cons field rest induction =>
      obtain ⟨name, value⟩ := field
      intro index equal found agrees selected equalResult foundResult
      have afterResult := evaluate_join_and equalResult
        (evaluate_compare_constant actual name
          (afterOperator (directions.get? name)) parameterize index value)
      have agreesResult := evaluate_join_and equalResult
        (evaluate_compare_constant actual name .eq parameterize index value)
      have foundNext := evaluate_join_or foundResult afterResult
      obtain ⟨result, evaluated, meaning⟩ :=
        induction (index + 1) (some _) (some _) _ _ agreesResult foundNext
      refine ⟨result, evaluated, meaning.trans ?_⟩
      rw [isAfter_cons_iff, ← holds_afterOperator_iff]
      simp only [Bool.or_eq_true, Bool.and_eq_true, Comparison.holds]
      tauto

theorem predicateFrom_eq_none_iff (directions : PropertyMap Direction)
    (parameterize : Bool) (fields : List (String × Value)) :
    ∀ (index : Nat) (equal found : Option Filter),
      predicateFrom directions parameterize index equal found fields = none ↔
        found = none ∧ fields = [] := by
  induction fields with
  | nil =>
      intro index equal found
      simp [predicateFrom]
  | cons field rest induction =>
      intro index equal found
      simp [predicateFrom, induction]

theorem predicate?_eq_none_iff {values : PropertyMap Value} {order : SortOrder}
    {parameterize : Bool} :
    predicate? values order parameterize = none ↔ values.isEmpty = true := by
  rw [predicate?, predicateFrom_eq_none_iff, PropertyMap.isEmpty,
    List.isEmpty_iff]
  exact and_iff_right rfl

theorem exists_predicate? {values : PropertyMap Value}
    (nonempty : values.isEmpty = false) (order : SortOrder)
    (parameterize : Bool) :
    ∃ predicate, predicate? values order parameterize = some predicate := by
  apply Option.ne_none_iff_exists'.mp
  rw [Ne, predicate?_eq_none_iff, nonempty]
  exact Bool.false_ne_true

theorem evaluate_predicate? {values : PropertyMap Value} {order : SortOrder}
    {parameterize : Bool} {predicate : Filter}
    (built : predicate? values order parameterize = some predicate)
    (actual : String → Value) :
    ∃ selected, predicate.evaluate actual = .ok selected ∧
      (selected = true ↔ IsAfter order.directions actual values.entries) := by
  obtain ⟨selected, evaluated, meaning⟩ := evaluate_predicateFrom
    order.directions parameterize actual values.entries 0 none none true false
    rfl rfl
  rw [← predicate?, built] at evaluated
  exact ⟨selected, evaluated, meaning.trans (by simp)⟩

theorem join_induction {P : Filter → Prop}
    {connective : Filter → Filter → Filter}
    (joins : ∀ {left right : Filter}, P left → P right →
      P (connective left right))
    {earlier? : Option Filter} {filter : Filter}
    (earlierHolds : ∀ earlier, earlier? = some earlier → P earlier)
    (holds : P filter) : P (join connective earlier? filter) := by
  cases earlier? with
  | none => exact holds
  | some earlier => exact joins (earlierHolds earlier rfl) holds

/-- What holds of the comparisons of the recorded fields, each for equality and
with the operator that selects what is beyond, and of any two filters joined,
holds of the predicate. -/
theorem predicateFrom_induction {P : Filter → Prop}
    (joinsAnd : ∀ {left right : Filter}, P left → P right → P (.and left right))
    (joinsOr : ∀ {left right : Filter}, P left → P right → P (.or left right))
    {directions : PropertyMap Direction} {parameterize : Bool}
    (fields : List (String × Value)) :
    (∀ field ∈ fields, ∀ index,
      P (.compare (.property field.1) .eq
        (constant parameterize index field.2)) ∧
      P (.compare (.property field.1)
        (afterOperator (directions.get? field.1))
        (constant parameterize index field.2))) →
    ∀ (index : Nat) (equal found : Option Filter),
      (∀ filter, equal = some filter → P filter) →
      (∀ filter, found = some filter → P filter) →
      ∀ predicate,
        predicateFrom directions parameterize index equal found fields =
          some predicate →
        P predicate := by
  induction fields with
  | nil =>
      intro _ index equal found _ foundHolds predicate built
      exact foundHolds predicate built
  | cons field rest induction =>
      obtain ⟨name, value⟩ := field
      intro each index equal found equalHolds foundHolds
      obtain ⟨equality, beyond⟩ := each (name, value) (by simp) index
      have agreesHolds := join_induction joinsAnd equalHolds equality
      have afterHolds := join_induction joinsAnd equalHolds beyond
      have nextHolds := join_induction joinsOr foundHolds afterHolds
      refine induction (fun other member => each other (by simp [member]))
        (index + 1) (some _) (some _) ?_ ?_
      · rintro filter ⟨⟩
        exact agreesHolds
      · rintro filter ⟨⟩
        exact nextHolds

theorem eachComparison_compare_constant
    {condition : String → Comparison → Value → Prop} {name : String}
    {operator : Comparison} {value : Value}
    (each : condition name operator value.unwrapEnum) (parameterize : Bool)
    (index : Nat) :
    (Filter.compare (.property name) operator
      (constant parameterize index value)).EachComparison condition := by
  intro given present
  rw [constant?_constant] at present
  cases present
  exact each

theorem eachComparison_predicateFrom
    {condition : String → Comparison → Value → Prop}
    {directions : PropertyMap Direction} {parameterize : Bool}
    (fields : List (String × Value))
    (each : ∀ field ∈ fields, condition field.1 .eq field.2.unwrapEnum ∧
      condition field.1 (afterOperator (directions.get? field.1))
        field.2.unwrapEnum) :
    ∀ (index : Nat) (equal found : Option Filter),
      (∀ filter, equal = some filter → filter.EachComparison condition) →
      (∀ filter, found = some filter → filter.EachComparison condition) →
      ∀ predicate,
        predicateFrom directions parameterize index equal found fields =
          some predicate →
        predicate.EachComparison condition := by
  refine predicateFrom_induction And.intro And.intro fields ?_
  intro field member index
  obtain ⟨equality, beyond⟩ := each field member
  exact ⟨eachComparison_compare_constant equality parameterize index,
    eachComparison_compare_constant beyond parameterize index⟩

/-- A record without fields has no keyset predicate.  Every other has one, and
it selects exactly the entities strictly after the recorded position. -/
theorem predicate?_selects_exactly_after {ρ : Type} [Record ρ]
    (values : PropertyMap Value) (order : SortOrder) (parameterize : Bool) :
    (values.isEmpty = true ∧ predicate? values order parameterize = none) ∨
      (values.isEmpty = false ∧
        ∃ predicate, predicate? values order parameterize = some predicate ∧
          ∀ record : ρ, ∃ selected,
            predicate.evaluate (Record.value record) = .ok selected ∧
              (selected = true ↔
                IsAfter order.directions (Record.value record)
                  values.entries)) := by
  cases built : predicate? values order parameterize with
  | none => exact .inl ⟨predicate?_eq_none_iff.mp built, rfl⟩
  | some predicate =>
      have nonempty : values.isEmpty = false := by
        rw [← Bool.not_eq_true, ← predicate?_eq_none_iff, built]
        exact Option.some_ne_none predicate
      refine .inr ⟨nonempty, predicate, rfl, ?_⟩
      intro record
      exact evaluate_predicate? built (Record.value record)

end Keyset

end KeysetPaging
