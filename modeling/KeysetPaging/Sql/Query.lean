import KeysetPaging.Query.Basic
import KeysetPaging.Sql.Columns
import KeysetPaging.Sql.Condition

/-!
# Queries on a database

A filter compiles to a condition on columns.  In filters null comes before every
other value, but in SQL a comparison with null is never true, so the null rows
are added where the order puts them: `lt` and `le` also accept rows without a
value, and comparisons with null itself become tests for null or constants.

Only comparisons of a property with a constant have a column form, and the only
constant that can stand for a condition is `true`.
-/

namespace KeysetPaging.Sql

/-- The condition for a comparison of a column with null. -/
def compareNull (column : String) : Comparison → Condition
  | .eq => .single (.isNull column)
  | .le => .single (.isNull column)
  | .ne => .single (.isNotNull column)
  | .gt => .single (.isNotNull column)
  | .ge => .always
  | .lt => .single .never

/-- The condition for a comparison of a column with a bound value. -/
def compareBound (column : String) (operator : Comparison) (value : Bound) :
    Condition :=
  let test := Condition.compare column operator value
  match operator with
  | .lt => .group .any [test, .isNull column]
  | .le => .group .any [test, .isNull column]
  | _ => .single test

/-- The condition for a comparison of a property with a constant. -/
def compileComparison (columns : Columns) (property : String)
    (operator : Comparison) (value : Value) : Except Error Condition :=
  match columns.column? property with
  | none => .error (.unknownProperty columns.entityName property)
  | some column =>
      match value with
      | .null => .ok (compareNull column.name operator)
      | value =>
          ((Bound.ofValue column.kind value).map
            (compareBound column.name operator)).mapError Error.invalidFilter

def compile (columns : Columns) : Filter → Except Error Condition
  | .and left right => do
      let leftCondition ← compile columns left
      let rightCondition ← compile columns right
      .ok (.pair .all leftCondition rightCondition)
  | .or left right => do
      let leftCondition ← compile columns left
      let rightCondition ← compile columns right
      .ok (.pair .any leftCondition rightCondition)
  | .compare left operator right =>
      match left, right.constant? with
      | .property name, some value =>
          compileComparison columns name operator value
      | _, _ =>
          .error (.invalidFilter
            (.unsupportedComparison (.compare left operator right)))
  | .constant (.bool true) => .ok .always
  | other => .error (.invalidFilter (.notBoolean other))

/-- A query on a table, for entities of a known type. -/
structure TableQuery where
  elementType : String
  columns : Columns
  condition? : Option Condition := none

namespace TableQuery

/-- The query restricted to the rows of which a filter holds. -/
def restrict (query : TableQuery) (filter : Filter) :
    Except Error TableQuery := do
  let condition ← compile query.columns filter
  .ok { query with condition? := some (.restrict query.condition? condition) }

instance : Queryable TableQuery where
  elementType? query := some query.elementType
  applyFilter := restrict

def whereText? (query : TableQuery) : Option String :=
  query.condition?.map Condition.text

/-- The values bound to the placeholders of the query's condition. -/
def boundValues (query : TableQuery) : List Bound :=
  (query.condition?.map Condition.values).getD []

end TableQuery

end KeysetPaging.Sql
