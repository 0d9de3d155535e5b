import KeysetPaging.Proofs.Filter.Evaluation

/-!
# One order behind all comparisons

Values are compared in three ways: by the order of one kind, by that order with
null before it, and for equality, which treats nulls and values of different
kinds in a way of its own.  Here they are shown to be one order.  The values of a
kind form a single line, whatever mixture of enum members and numbers they are.
Null is where it begins, and values are equal exactly when they stand in one
place of it.

The six operators are decided by two of these functions.  They fit together
because both come from the one order: on two related values the operators only
look at the order of the two, and on unrelated values all but `ne` are false.
-/

namespace KeysetPaging

namespace Value

/-- The values of a kind, and null. -/
def IsOf (kind : ValueKind) (value : Value) : Prop :=
  value = .null ∨ value.kind? = some kind

/-- A value does not come after another in the order with null first. -/
def AtMost (left right : Value) : Prop :=
  left.compareNullsFirst right = some .lt ∨
    left.compareNullsFirst right = some .eq

/-- The order with null first puts some values in one line: it relates any two
of them, it is the same from both sides, and it is transitive.  Values stand in
one place exactly when they are equal, and null comes before all others. -/
structure OrdersTotally (members : Value → Prop) : Prop where
  total : ∀ left right, members left → members right →
    left.AtMost right ∨ right.AtMost left
  swap : ∀ left right, members left → members right →
    right.compareNullsFirst left =
      (left.compareNullsFirst right).map Ordering.swap
  trans : ∀ left middle right, members left → members middle →
    members right → left.AtMost middle → middle.AtMost right →
      left.AtMost right
  eq_iff_equals : ∀ left right, members left → members right →
    (left.compareNullsFirst right = some .eq ↔ left.equals right = true)
  null_member : members .null
  null_least : ∀ value, members value → value ≠ .null →
    Value.null.compareNullsFirst value = some .lt

theorem compare_null_left (value : Value) :
    Value.null.compare value = none := by
  cases value <;> rfl

theorem compare_null_right (value : Value) :
    value.compare .null = none := by
  cases value <;> rfl

theorem compareNullsFirst_eq_compare {left right : Value}
    (leftPresent : left ≠ .null) (rightPresent : right ≠ .null) :
    left.compareNullsFirst right = left.compare right := by
  cases left <;> cases right <;>
    first
    | rfl
    | exact absurd rfl leftPresent
    | exact absurd rfl rightPresent

theorem compare_swap (left right : Value) :
    right.compare left = (left.compare right).map Ordering.swap := by
  by_cases leftNull : left = .null
  · rw [leftNull, compare_null_left, compare_null_right, Option.map_none]
  by_cases rightNull : right = .null
  · rw [rightNull, compare_null_left, compare_null_right, Option.map_none]
  rw [← compareNullsFirst_eq_compare leftNull rightNull,
    ← compareNullsFirst_eq_compare rightNull leftNull, compareNullsFirst_swap]

theorem compare_isSome_iff {left right : Value} :
    (left.compare right).isSome ↔
      left ≠ .null ∧ right ≠ .null ∧ left.kind? = right.kind? := by
  by_cases leftNull : left = .null
  · simp [leftNull, compare_null_left]
  by_cases rightNull : right = .null
  · simp [rightNull, compare_null_right]
  rw [← compareNullsFirst_eq_compare leftNull rightNull,
    ← comparable_iff_isSome]
  simp [Comparable, leftNull, rightNull]

theorem comparable_iff_compare {left right : Value} :
    left.Comparable right ↔
      left = .null ∨ right = .null ∨ (left.compare right).isSome := by
  by_cases leftNull : left = .null
  · simp [Comparable, leftNull]
  by_cases rightNull : right = .null
  · simp [Comparable, rightNull]
  simp [Comparable, compare_isSome_iff, leftNull, rightNull]

theorem equals_equivalence :
    Equivalence fun left right : Value => left.equals right = true :=
  ⟨equals_refl, equals_symm, equals_trans⟩

/-- Where one of two steps is an equality, the values it joins stand in for each
other. -/
theorem AtMost.trans {left middle right : Value} (near : left.AtMost middle)
    (far : middle.AtMost right) : left.AtMost right := by
  rcases near with less | same
  · rcases far with alsoLess | same
    · exact .inl (compareNullsFirst_lt_trans less alsoLess)
    · left
      rw [← less]
      exact compareNullsFirst_congr rfl
        (compareNullsFirst_eq_eq_iff.mp same).symm
  · have moved : left.compareNullsFirst right =
        middle.compareNullsFirst right :=
      compareNullsFirst_congr (compareNullsFirst_eq_eq_iff.mp same) rfl
    rw [AtMost, moved]
    exact far

theorem atMost_or_atMost_of_comparable {left right : Value}
    (comparable : left.Comparable right) :
    left.AtMost right ∨ right.AtMost left := by
  obtain ⟨order, compared⟩ :=
    Option.isSome_iff_exists.mp (comparable_iff_isSome.mp comparable)
  cases order with
  | lt => exact .inl (.inl compared)
  | eq => exact .inl (.inr compared)
  | gt =>
      right
      left
      rw [compareNullsFirst_swap left right, compared]
      rfl

theorem ordersTotally_isOf (kind : ValueKind) : OrdersTotally (IsOf kind) where
  total _ _ leftIsOf rightIsOf :=
    atMost_or_atMost_of_comparable (comparable_of_kind leftIsOf rightIsOf)
  swap left right _ _ := compareNullsFirst_swap left right
  trans _ _ _ _ _ _ near far := near.trans far
  eq_iff_equals _ _ _ _ := equals_iff_compareNullsFirst.symm
  null_member := .inl rfl
  null_least _ _ present := compareNullsFirst_null_left present

end Value

namespace Comparison

/-- The operator that accepts an order and no other. -/
def ofOrdering : Ordering → Comparison
  | .lt => .lt
  | .eq => .eq
  | .gt => .gt

/-- The verdicts of the six operators on two operands, and on the operands in
reverse, are those of one order in which the operands may be unrelated. -/
structure FitTogether (verdict reverse : Comparison → Bool) (related : Prop) :
    Prop where
  atLeast : verdict .ge = (verdict .gt || verdict .eq)
  atMost : verdict .le = (verdict .lt || verdict .eq)
  different : verdict .ne = !verdict .eq
  reversed : verdict .gt = reverse .lt
  exactlyOne : related →
    ∃! operator, operator ∈ [lt, eq, gt] ∧ verdict operator = true
  onlyDifferent : ¬ related → ∀ operator, operator ≠ ne →
    verdict operator = false

theorem accepts_iff_eq_ofOrdering {operator : Comparison}
    (strict : operator ∈ [lt, eq, gt]) (order : Ordering) :
    operator.accepts order = true ↔ operator = ofOrdering order := by
  simp only [List.mem_cons, List.not_mem_nil, or_false] at strict
  rcases strict with rfl | rfl | rfl <;> cases order <;> decide

theorem fitTogether_holds (left right : Value) :
    FitTogether (fun operator => operator.holds left right)
      (fun operator => operator.holds right left) (left.Comparable right) where
  atLeast := by simp only [holds, Value.equals_eq_compareNullsFirst]
  atMost := by simp only [holds, Value.equals_eq_compareNullsFirst]
  different := rfl
  reversed := by
    simp only [holds, Value.compareNullsFirst_swap left right]
    rcases left.compareNullsFirst right with _ | _ | _ | _ <;> rfl
  exactlyOne := by
    intro comparable
    obtain ⟨order, compared⟩ := Option.isSome_iff_exists.mp
      (Value.comparable_iff_isSome.mp comparable)
    have decided (operator : Comparison) (strict : operator ∈ [lt, eq, gt]) :
        operator.holds left right = true ↔ operator = ofOrdering order := by
      rw [holds_eq_accepts compared, accepts_iff_eq_ofOrdering strict]
    have strict : ofOrdering order ∈ [lt, eq, gt] := by
      cases order <;> decide
    refine ⟨ofOrdering order, ⟨strict, (decided _ strict).mpr rfl⟩, ?_⟩
    rintro operator ⟨listed, holds⟩
    exact (decided operator listed).mp holds
  onlyDifferent := by
    intro unrelated operator notNe
    have undecided : left.compareNullsFirst right = none := by
      rwa [Value.comparable_iff_isSome, Option.not_isSome_iff_eq_none]
        at unrelated
    cases operator with
    | ne => exact absurd rfl notNe
    | _ => simp [holds, Value.equals_eq_compareNullsFirst, undecided]

end Comparison

namespace Filter

theorem evaluate_compare_of_operand {values : String → Value}
    {left right : Filter} {leftValue rightValue : Value}
    (leftOperand : left.operand values = .ok leftValue)
    (rightOperand : right.operand values = .ok rightValue)
    (operator : Comparison) :
    (Filter.compare left operator right).evaluate values =
      .ok (operator.holds leftValue rightValue) := by
  rw [evaluate, leftOperand, rightOperand]
  rfl

end Filter

/-- The comparison of values is one order.  It is the same from both sides, and
its equality is an equivalence of all values.  It relates the values of one kind
and no others.  They and null are totally ordered, with null as the least, and
values stand in one place exactly when they are equal.  So the operators tell one
thing of two operands: `ge`, `le` and `ne` follow from `gt`, `lt` and `eq`, of
which exactly one holds if the operands are related and none if they are not. -/
theorem values_in_one_order :
    (∀ left right : Value,
      right.compare left = (left.compare right).map Ordering.swap) ∧
    (Equivalence fun left right : Value => left.equals right = true) ∧
    (∀ left right : Value, (left.compare right).isSome ↔
      left ≠ .null ∧ right ≠ .null ∧ left.kind? = right.kind?) ∧
    (∀ kind, Value.OrdersTotally (Value.IsOf kind)) ∧
    (∀ (values : String → Value) (left right : Filter)
      (leftValue rightValue : Value),
      left.operand values = .ok leftValue →
      right.operand values = .ok rightValue →
      ∃ verdict reverse : Comparison → Bool,
        (∀ operator, (Filter.compare left operator right).evaluate values =
          .ok (verdict operator)) ∧
        (∀ operator, (Filter.compare right operator left).evaluate values =
          .ok (reverse operator)) ∧
        Comparison.FitTogether verdict reverse
          (leftValue = .null ∨ rightValue = .null ∨
            (leftValue.compare rightValue).isSome)) := by
  refine ⟨Value.compare_swap, Value.equals_equivalence,
    fun _ _ => Value.compare_isSome_iff, Value.ordersTotally_isOf, ?_⟩
  intro values left right leftValue rightValue leftOperand rightOperand
  refine ⟨_, _, Filter.evaluate_compare_of_operand leftOperand rightOperand,
    Filter.evaluate_compare_of_operand rightOperand leftOperand, ?_⟩
  rw [← Value.comparable_iff_compare]
  exact Comparison.fitTogether_holds leftValue rightValue

def goldRank : Value :=
  .enum ⟨"Club.Rank", "Gold", 2⟩

/-- An enum member stands between numbers, in the place of the number `2.00`
however many zeros that has. -/
theorem values_in_one_order_goldRank :
    (Value.number ⟨15, 1⟩).AtMost (.number ⟨200, 2⟩) ∧
    ∃ verdict : Comparison → Bool,
      (∀ operator, (Filter.compare (.property "rank") operator
        (.parameter 0 (.number ⟨200, 2⟩))).evaluate (fun _ => goldRank) =
          .ok (verdict operator)) ∧
      verdict .ge = (verdict .gt || verdict .eq) ∧
      (∃! operator, operator ∈ [Comparison.lt, .eq, .gt] ∧
        verdict operator = true) ∧
      verdict .eq = true := by
  obtain ⟨_, _, _, total, operands⟩ := values_in_one_order
  have line := total .number
  have gold : goldRank.IsOf .number := .inr rfl
  have less : (Value.number ⟨15, 1⟩).IsOf .number := .inr rfl
  have more : (Value.number ⟨200, 2⟩).IsOf .number := .inr rfl
  obtain ⟨verdict, reverse, evaluated, _, fit⟩ :=
    operands (fun _ => goldRank) (.property "rank")
      (.parameter 0 (.number ⟨200, 2⟩)) goldRank (.number ⟨200, 2⟩) rfl rfl
  refine ⟨line.trans _ goldRank _ less gold more (.inl (by decide))
    (.inr (by decide)), verdict, evaluated, fit.atLeast,
    fit.exactlyOne (.inr (.inr (by decide))), ?_⟩
  have equal := evaluated .eq
  have decided : (Filter.compare (.property "rank") .eq
      (.parameter 0 (.number ⟨200, 2⟩))).evaluate (fun _ => goldRank) =
        .ok true := by decide
  rw [decided] at equal
  exact (Except.ok.inj equal).symm

end KeysetPaging
