import KeysetPaging.Filter.Evaluate
import KeysetPaging.Proofs.Fallible
import KeysetPaging.Proofs.Value.Order

/-!
# The evaluation of filters

Equality in a filter is decided by one function and the four inequalities by
another.  Between values that the order relates the six operators look at their
order only; this is the form in which a database decides them as well.

A property of filters that depends on their comparisons alone is stated by
`Filter.EachComparison`.  So is the meaning of a filter, once it is known how its
comparisons are read: `Filter.Holds` leaves that reading open.  Filters have no
negation, so a reading that accepts more makes filters hold more often.
-/

namespace KeysetPaging

namespace Comparison

/-- Whether an operator accepts the order of its two operands. -/
def accepts : Comparison → Ordering → Bool
  | .eq, order => order == .eq
  | .ne, order => order != .eq
  | .gt, order => order == .gt
  | .ge, order => order != .lt
  | .lt, order => order == .lt
  | .le, order => order != .gt

/-- Between values that the order relates, an operator looks at their order
only. -/
theorem holds_eq_accepts {left right : Value} {order : Ordering}
    (related : left.compareNullsFirst right = some order)
    (operator : Comparison) :
    operator.holds left right = operator.accepts order := by
  cases operator <;> cases order <;>
    simp [holds, accepts, related, Value.equals_eq_compareNullsFirst]

theorem holds_congr {left right right' : Value}
    (same : right.content? = right'.content?) (operator : Comparison) :
    operator.holds left right = operator.holds left right' := by
  simp only [holds, Value.equals_eq_compareNullsFirst,
    Value.compareNullsFirst_congr rfl same]

end Comparison

namespace Filter

/-- A condition holds of each comparison of a property with a constant. -/
def EachComparison (condition : String → Comparison → Value → Prop) :
    Filter → Prop
  | .and left right =>
      left.EachComparison condition ∧ right.EachComparison condition
  | .or left right =>
      left.EachComparison condition ∧ right.EachComparison condition
  | .compare (.property name) operator right =>
      ∀ value, right.constant? = some value → condition name operator value
  | _ => True

theorem EachComparison.mono {filter : Filter}
    {condition weaker : String → Comparison → Value → Prop}
    (each : filter.EachComparison condition)
    (implies : ∀ name operator constant, condition name operator constant →
      weaker name operator constant) :
    filter.EachComparison weaker := by
  induction filter with
  | and left right leftInduction rightInduction =>
      exact ⟨leftInduction each.1, rightInduction each.2⟩
  | or left right leftInduction rightInduction =>
      exact ⟨leftInduction each.1, rightInduction each.2⟩
  | compare left operator right _ _ =>
      cases left with
      | property name =>
          intro constant given
          exact implies name operator constant (each constant given)
      | _ => trivial
  | _ => trivial

theorem EachComparison.and {filter : Filter}
    {condition more : String → Comparison → Value → Prop}
    (each : filter.EachComparison condition)
    (eachMore : filter.EachComparison more) :
    filter.EachComparison fun name operator constant =>
      condition name operator constant ∧ more name operator constant := by
  induction filter with
  | and left right leftInduction rightInduction =>
      exact ⟨leftInduction each.1 eachMore.1, rightInduction each.2 eachMore.2⟩
  | or left right leftInduction rightInduction =>
      exact ⟨leftInduction each.1 eachMore.1, rightInduction each.2 eachMore.2⟩
  | compare left operator right _ _ =>
      cases left with
      | property name =>
          intro constant given
          exact ⟨each constant given, eachMore constant given⟩
      | _ => trivial
  | _ => trivial

variable {values : String → Value} {left right : Filter}
  {leftHolds rightHolds : Bool}

theorem evaluate_and (leftResult : left.evaluate values = .ok leftHolds)
    (rightResult : right.evaluate values = .ok rightHolds) :
    (Filter.and left right).evaluate values = .ok (leftHolds && rightHolds) := by
  rw [evaluate, leftResult, rightResult]
  cases leftHolds <;> rfl

theorem evaluate_or (leftResult : left.evaluate values = .ok leftHolds)
    (rightResult : right.evaluate values = .ok rightHolds) :
    (Filter.or left right).evaluate values = .ok (leftHolds || rightHolds) := by
  rw [evaluate, leftResult, rightResult]
  cases leftHolds <;> rfl

theorem evaluate_compare {name : String} {operand : Filter} {constant : Value}
    (given : operand.constant? = some constant) (operator : Comparison) :
    (Filter.compare (.property name) operator operand).evaluate values =
      .ok (operator.holds (values name) constant) := by
  cases operand with
  | constant value | parameter index value =>
      cases given
      rfl
  | _ => cases given

/-- What a filter says under a reading of its comparisons. -/
def Holds (reading : String → Comparison → Value → Prop) : Filter → Prop
  | .and left right => left.Holds reading ∧ right.Holds reading
  | .or left right => left.Holds reading ∨ right.Holds reading
  | .compare (.property name) operator right =>
      ∃ value, right.constant? = some value ∧ reading name operator value
  | .constant value => value = .bool true
  | _ => False

variable {reading other : String → Comparison → Value → Prop}

theorem holds_compare_iff {name : String} {operator : Comparison}
    {operand : Filter} {constant : Value}
    (given : operand.constant? = some constant) :
    (Filter.compare (.property name) operator operand).Holds reading ↔
      reading name operator constant := by
  simp [Holds, given]

theorem holds_congr {filter : Filter}
    (each : filter.EachComparison fun name operator constant =>
      (reading name operator constant ↔ other name operator constant)) :
    filter.Holds reading ↔ filter.Holds other := by
  induction filter with
  | and left right leftInduction rightInduction =>
      exact and_congr (leftInduction each.1) (rightInduction each.2)
  | or left right leftInduction rightInduction =>
      exact or_congr (leftInduction each.1) (rightInduction each.2)
  | compare left operator right _ _ =>
      cases left with
      | property name =>
          apply exists_congr
          intro constant
          exact and_congr_right (each constant)
      | _ => rfl
  | _ => rfl

theorem Holds.mono {filter : Filter}
    (accepts : ∀ name operator constant, reading name operator constant →
      other name operator constant)
    (holds : filter.Holds reading) : filter.Holds other := by
  induction filter with
  | and left right leftInduction rightInduction =>
      exact ⟨leftInduction holds.1, rightInduction holds.2⟩
  | or left right leftInduction rightInduction =>
      exact holds.imp leftInduction rightInduction
  | compare left operator right _ _ =>
      cases left with
      | property name =>
          obtain ⟨constant, given, accepted⟩ := holds
          exact ⟨constant, given, accepts name operator constant accepted⟩
      | _ => exact holds
  | _ => exact holds

end Filter

end KeysetPaging
