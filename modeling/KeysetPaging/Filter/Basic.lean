import KeysetPaging.Decimal.Fixed96
import KeysetPaging.Literal.Spelling
import KeysetPaging.Schema.Types

/-!
# Filters

A filter is a boolean combination of comparisons between properties and
constants.  A constant may be lifted into a numbered parameter, which keeps its
value at hand and only changes how the filter is shown.

The type admits expressions that are no filter, such as a property where a
boolean is expected.  `FilterFault` names what can be wrong with one, in memory
or on the way to a database column.
-/

namespace KeysetPaging

inductive Comparison where
  | eq
  | ne
  | gt
  | ge
  | lt
  | le
deriving DecidableEq

namespace Comparison

/-- The operator as filters show it. -/
def symbol : Comparison → String
  | .eq => "eq"
  | .ne => "ne"
  | .gt => "gt"
  | .ge => "ge"
  | .lt => "lt"
  | .le => "le"

end Comparison

/-- A filter expression. -/
inductive Filter where
  | and (left right : Filter)
  | or (left right : Filter)
  | compare (left : Filter) (operator : Comparison) (right : Filter)
  | property (name : String)
  | constant (value : Value)
  | parameter (index : Nat) (value : Value)
deriving DecidableEq

namespace Filter

/-- The filter as text, with every conjunction and disjunction in
parentheses. -/
def display : Filter → String
  | .and left right => "(" ++ left.display ++ " and " ++ right.display ++ ")"
  | .or left right => "(" ++ left.display ++ " or " ++ right.display ++ ")"
  | .compare left operator right =>
      left.display ++ " " ++ operator.symbol ++ " " ++ right.display
  | .property name => name
  | .constant value => Literal.render value
  | .parameter index _ => "@p" ++ String.ofList (Text.digits index)

/-- The value of a constant or a parameter. -/
def constant? : Filter → Option Value
  | .constant value => some value
  | .parameter _ value => some value
  | _ => none

end Filter

/-- What can be wrong with a filter. -/
inductive FilterFault where
  /-- The expression stands where a boolean is expected. -/
  | notBoolean (filter : Filter)
  /-- The expression is compared and is neither a property nor a constant. -/
  | notOperand (filter : Filter)
  /-- The comparison is not between a property and a constant. -/
  | unsupportedComparison (filter : Filter)
  /-- The constant cannot be bound to a column of this type. -/
  | typeMismatch (kind : PrimitiveKind) (value : Value)
  /-- The number does not fit a decimal column. -/
  | decimalOverflow (number : Decimal)
deriving DecidableEq

namespace FilterFault

def message : FilterFault → String
  | .notBoolean filter => "expected a boolean expression, got " ++ filter.display
  | .notOperand filter =>
      "expected an identifier or constant, got " ++ filter.display
  | .unsupportedComparison filter =>
      "unsupported comparison form: " ++ filter.display
  | .typeMismatch kind value =>
      "type mismatch: expected " ++ kind.name ++ ", got " ++ Literal.render value
  | .decimalOverflow number =>
      "invalid decimal " ++ String.ofList number.shortText

end FilterFault

end KeysetPaging
