import KeysetPaging.Filter.Basic

/-!
# Evaluating filters

A filter is evaluated against one entity, given by the values of its
properties.  Comparisons use the order with null first, so `x gt null` holds of
any other value; equality is `Value.equals`.  Conjunction and disjunction stop
at the first operand that decides them, so a fault in an operand that is not
reached goes unnoticed.
-/

namespace KeysetPaging

namespace Comparison

/-- Whether a comparison of two values holds.  Between values of different
kinds only `ne` does. -/
def holds (operator : Comparison) (left right : Value) : Bool :=
  let order := left.compareNullsFirst right
  match operator with
  | .eq => left.equals right
  | .ne => !left.equals right
  | .gt => order == some .gt
  | .ge => order == some .gt || order == some .eq
  | .lt => order == some .lt
  | .le => order == some .lt || order == some .eq

end Comparison

namespace Filter

def operand (values : String → Value) : Filter → Except FilterFault Value
  | .property name => .ok (values name)
  | .constant value => .ok value
  | .parameter _ value => .ok value
  | other => .error (.notOperand other)

/-- Whether a filter holds of an entity with the given property values. -/
def evaluate (values : String → Value) : Filter → Except FilterFault Bool
  | .and left right => do
      if ← left.evaluate values then right.evaluate values else .ok false
  | .or left right => do
      if ← left.evaluate values then .ok true else right.evaluate values
  | .compare left operator right => do
      let leftValue ← left.operand values
      let rightValue ← right.operand values
      .ok (operator.holds leftValue rightValue)
  | .constant (.bool value) => .ok value
  | other => .error (.notBoolean other)

end Filter

end KeysetPaging
