import KeysetPaging.Proofs.Sql.Truth
import KeysetPaging.Sql.Query

/-!
# Compiled filters

A filter has two readings: in memory it is evaluated on the properties of an
entity, and on a table it is compiled to a condition on the columns that store
them.  The two agree wherever constants are bound to equal values, save in one
place: a missing value differs from every constant in memory, while no engine
finds it different from anything.
-/

namespace KeysetPaging.Sql

namespace Columns

/-- A row of a table stores a property of an entity when the column of the
property, if it has one, holds the value that the entity has, and that value is
missing or of the column's type. -/
def Stores (columns : Columns) (cells actual : String → Value)
    (name : String) : Prop :=
  ∀ column, columns.column? name = some column →
    cells column.name = actual name ∧
      (actual name = .null ∨ column.kind.Admits (actual name))

/-- A constant is bound exactly to the column of a property when what is bound,
if anything is, denotes the constant. -/
def BindsExactly (columns : Columns) (name : String) (constant : Value) :
    Prop :=
  ∀ column bound, columns.column? name = some column →
    Bound.ofValue column.kind constant = .ok bound → bound.Denotes constant

end Columns

namespace Bound

theorem admits_of_ofValue {kind : PrimitiveKind} {constant value : Value}
    {bound : Bound} (converted : ofValue kind constant = .ok bound)
    (denoted : bound.value? = some value) : kind.Admits value := by
  have numbers (number : Decimal) (bound : Bound)
      (converted : ofNumber kind number = .ok bound)
      (denoted : bound.value? = some value) : kind.Admits value := by
    cases kind with
    | int64 =>
        cases truncated : number.truncate? with
        | none => simp [ofNumber, truncated, orMismatch] at converted
        | some n =>
            simp only [ofNumber, truncated, orMismatch, Option.map_some,
              Except.ok.injEq] at converted
            subst converted
            cases denoted
            exact ⟨n, Decimal.toRat_ofInt64 n⟩
    | float64 =>
        cases converted
        cases denoted
    | decimal =>
        cases fixed : number.toFixed96? with
        | none => simp [ofNumber, fixed] at converted
        | some n =>
            simp only [ofNumber, fixed, Except.ok.injEq] at converted
            subst converted
            cases denoted
            trivial
    | string | bool | guid | instant | date | time => cases converted
  cases kind <;> cases constant <;>
    first
    | exact numbers _ _ converted denoted
    | cases converted
      cases denoted
      trivial
    | cases converted

end Bound

section Tests

variable (engine : Engine) (cells : String → Value)

theorem truth_compareNull_iff (column : String) (operator : Comparison) :
    (compareNull column operator).truth engine cells = .holds ↔
      operator.holds (cells column) .null = true := by
  generalize located : cells column = cell
  cases operator <;> cases cell <;>
    simp [compareNull, Condition.truth, located, Comparison.holds, Value.equals,
      Value.compareNullsFirst]

/-- A test against a bound value, with the rows that hold null added where null
comes first.  A missing value counts as different in memory alone. -/
theorem truth_compareBound_iff {kind : PrimitiveKind} {column : String}
    {bound : Bound} {value : Value} (operator : Comparison)
    (cellAdmitted : cells column = .null ∨ kind.Admits (cells column))
    (valueAdmitted : kind.Admits value)
    (denoted : bound.value? = some value) :
    (compareBound column operator bound).truth engine cells = .holds ↔
      operator.holds (cells column) value = true ∧
        ¬ (operator = .ne ∧ cells column = .null) := by
  have present : value ≠ .null := by
    rintro rfl
    cases kind <;> exact valueAdmitted
  by_cases missing : cells column = .null
  · have first := Value.compareNullsFirst_null_left present
    have tested := engine.test_null operator bound
    rw [missing, Comparison.holds_eq_accepts first]
    cases operator <;>
      simp [compareBound, Condition.truth, Condition.disjunction, missing,
        tested, Comparison.accepts]
  · have admitted := cellAdmitted.resolve_left missing
    obtain ⟨order, compared⟩ :=
      PrimitiveKind.exists_compare_of_admits admitted valueAdmitted
    have tested :=
      engine.test_agrees operator admitted valueAdmitted denoted compared
    have related := Value.compareNullsFirst_of_compare compared
    rw [Comparison.holds_eq_accepts related]
    cases operator <;>
      simp [compareBound, Condition.truth, Condition.disjunction, missing,
        tested]

variable {engine cells}
variable {columns : Columns} {actual : String → Value}

/-- How a comparison is read in memory. -/
def MemoryReading (actual : String → Value) (name : String)
    (operator : Comparison) (constant : Value) : Prop :=
  operator.holds (actual name) constant = true

/-- A missing value is compared by `ne` with a constant other than null. -/
def MissesDifference (actual : String → Value) (name : String)
    (operator : Comparison) (constant : Value) : Prop :=
  operator = .ne ∧ actual name = .null ∧ constant ≠ .null

/-- How a comparison is read on a table, where no missing value is found to
differ from a constant. -/
def TableReading (actual : String → Value) (name : String)
    (operator : Comparison) (constant : Value) : Prop :=
  MemoryReading actual name operator constant ∧
    ¬ MissesDifference actual name operator constant

/-- A row stores the property of a comparison, and the constant is bound
exactly. -/
def Faithful (columns : Columns) (cells actual : String → Value) (name : String)
    (constant : Value) : Prop :=
  columns.Stores cells actual name ∧ columns.BindsExactly name constant

theorem compileComparison_eq_ok_iff {name : String} {operator : Comparison}
    {constant : Value} {condition : Condition} :
    compileComparison columns name operator constant = .ok condition ↔
      ∃ column, columns.column? name = some column ∧
        ((constant = .null ∧ compareNull column.name operator = condition) ∨
          constant ≠ .null ∧ ∃ bound,
            Bound.ofValue column.kind constant = .ok bound ∧
              compareBound column.name operator bound = condition) := by
  unfold compileComparison
  cases columns.column? name with
  | none => simp
  | some column =>
      simp only [Option.some.injEq, exists_eq_left']
      cases constant with
      | null => simp
      | _ => simp [Fallible.mapError_eq_ok_iff, Fallible.map_eq_ok_iff]

theorem truth_compileComparison_iff {name : String} {operator : Comparison}
    {constant : Value} {condition : Condition}
    (compiled :
      compileComparison columns name operator constant = .ok condition)
    (faithful : Faithful columns cells actual name constant) :
    condition.truth engine cells = .holds ↔
      TableReading actual name operator constant := by
  obtain ⟨stores, bindsExactly⟩ := faithful
  unfold TableReading MemoryReading MissesDifference
  obtain ⟨column, located, ⟨rfl, rfl⟩ | ⟨present, bound, converted, rfl⟩⟩ :=
    compileComparison_eq_ok_iff.mp compiled
  · obtain ⟨stored, _⟩ := stores column located
    rw [truth_compareNull_iff, stored]
    simp
  · obtain ⟨stored, admitted⟩ := stores column located
    obtain ⟨value, denoted, equal⟩ := bindsExactly column bound located converted
    have same := Value.equals_iff_content?.mp equal
    rw [truth_compareBound_iff engine cells operator (by rwa [stored])
      (Bound.admits_of_ofValue converted denoted) denoted, stored,
      Comparison.holds_congr same]
    simp [present]

theorem compile_and_eq_ok_iff {left right : Filter} {condition : Condition} :
    compile columns (.and left right) = .ok condition ↔
      ∃ first second, compile columns left = .ok first ∧
        compile columns right = .ok second ∧
          Condition.pair .all first second = condition := by
  simp [compile, Fallible.bind_eq_ok_iff]

theorem compile_or_eq_ok_iff {left right : Filter} {condition : Condition} :
    compile columns (.or left right) = .ok condition ↔
      ∃ first second, compile columns left = .ok first ∧
        compile columns right = .ok second ∧
          Condition.pair .any first second = condition := by
  simp [compile, Fallible.bind_eq_ok_iff]

theorem compile_compare_eq_ok_iff {left right : Filter} {operator : Comparison}
    {condition : Condition} :
    compile columns (.compare left operator right) = .ok condition ↔
      ∃ name constant, left = .property name ∧
        right.constant? = some constant ∧
          compileComparison columns name operator constant = .ok condition := by
  cases left with
  | property name =>
      cases given : right.constant? with
      | none => simp [compile, given]
      | some constant => simp [compile, given]
  | _ => simp [compile]

theorem compile_constant_eq_ok_iff {value : Value} {condition : Condition} :
    compile columns (.constant value) = .ok condition ↔
      value = .bool true ∧ Condition.always = condition := by
  rcases value with _ | (_ | _) | _ | _ | _ | _ | _ | _ | _
  all_goals simp [compile]

/-- The condition of a filter is true on a row exactly when the filter holds
with its comparisons read as on a table. -/
theorem truth_compile_iff_holds {filter : Filter} {condition : Condition}
    (compiled : compile columns filter = .ok condition)
    (faithful : filter.EachComparison fun name _ constant =>
      Faithful columns cells actual name constant) :
    condition.truth engine cells = .holds ↔
      filter.Holds (TableReading actual) := by
  induction filter generalizing condition with
  | and left right leftInduction rightInduction =>
      obtain ⟨_, _, leftCompiled, rightCompiled, rfl⟩ :=
        compile_and_eq_ok_iff.mp compiled
      rw [Condition.truth_pair_all, Truth.and_eq_holds_iff,
        leftInduction leftCompiled faithful.1,
        rightInduction rightCompiled faithful.2, Filter.Holds]
  | or left right leftInduction rightInduction =>
      obtain ⟨_, _, leftCompiled, rightCompiled, rfl⟩ :=
        compile_or_eq_ok_iff.mp compiled
      rw [Condition.truth_pair_any, Truth.or_eq_holds_iff,
        leftInduction leftCompiled faithful.1,
        rightInduction rightCompiled faithful.2, Filter.Holds]
  | compare left operator right _ _ =>
      obtain ⟨name, constant, rfl, given, compared⟩ :=
        compile_compare_eq_ok_iff.mp compiled
      rw [Filter.holds_compare_iff given]
      exact truth_compileComparison_iff compared (faithful constant given)
  | constant value =>
      obtain ⟨rfl, rfl⟩ := compile_constant_eq_ok_iff.mp compiled
      simp [Filter.Holds]
  | property name => simp [compile] at compiled
  | parameter index value => simp [compile] at compiled

theorem exists_evaluate_of_compile {filter : Filter} {condition : Condition}
    (compiled : compile columns filter = .ok condition)
    (actual : String → Value) :
    ∃ selected, filter.evaluate actual = .ok selected ∧
      (selected = true ↔ filter.Holds (MemoryReading actual)) := by
  induction filter generalizing condition with
  | and left right leftInduction rightInduction =>
      obtain ⟨_, _, leftCompiled, rightCompiled, _⟩ :=
        compile_and_eq_ok_iff.mp compiled
      obtain ⟨leftSelected, leftResult, leftMeaning⟩ :=
        leftInduction leftCompiled
      obtain ⟨rightSelected, rightResult, rightMeaning⟩ :=
        rightInduction rightCompiled
      refine ⟨leftSelected && rightSelected,
        Filter.evaluate_and leftResult rightResult, ?_⟩
      rw [Bool.and_eq_true, leftMeaning, rightMeaning, Filter.Holds]
  | or left right leftInduction rightInduction =>
      obtain ⟨_, _, leftCompiled, rightCompiled, _⟩ :=
        compile_or_eq_ok_iff.mp compiled
      obtain ⟨leftSelected, leftResult, leftMeaning⟩ :=
        leftInduction leftCompiled
      obtain ⟨rightSelected, rightResult, rightMeaning⟩ :=
        rightInduction rightCompiled
      refine ⟨leftSelected || rightSelected,
        Filter.evaluate_or leftResult rightResult, ?_⟩
      rw [Bool.or_eq_true, leftMeaning, rightMeaning, Filter.Holds]
  | compare left operator right _ _ =>
      obtain ⟨name, constant, rfl, given, _⟩ :=
        compile_compare_eq_ok_iff.mp compiled
      refine ⟨operator.holds (actual name) constant,
        Filter.evaluate_compare given operator, ?_⟩
      rw [Filter.holds_compare_iff given]
      rfl
  | constant value =>
      obtain ⟨rfl, _⟩ := compile_constant_eq_ok_iff.mp compiled
      exact ⟨true, rfl, by simp [Filter.Holds]⟩
  | property name => simp [compile] at compiled
  | parameter index value => simp [compile] at compiled

/-- A comparison on which the two readings agree: the property is stored, the
constant is bound exactly, and the missing value that only memory tells from a
constant does not come up. -/
def Agreeing (columns : Columns) (cells actual : String → Value)
    (name : String) (operator : Comparison) (constant : Value) : Prop :=
  Faithful columns cells actual name constant ∧
    ¬ MissesDifference actual name operator constant

/-- A filter that compiles evaluates without a fault, and its condition is true
on a row exactly when the filter holds of the entity the row stores. -/
theorem truth_compile_iff {filter : Filter} {condition : Condition}
    (compiled : compile columns filter = .ok condition)
    (agreeing : filter.EachComparison (Agreeing columns cells actual)) :
    ∃ selected, filter.evaluate actual = .ok selected ∧
      (condition.truth engine cells = .holds ↔ selected = true) := by
  obtain ⟨selected, evaluated, meaning⟩ :=
    exists_evaluate_of_compile compiled actual
  refine ⟨selected, evaluated, ?_⟩
  have faithful : filter.EachComparison fun name _ constant =>
      Faithful columns cells actual name constant :=
    agreeing.mono fun _ _ _ agrees => agrees.1
  rw [truth_compile_iff_holds compiled faithful, meaning]
  apply Filter.holds_congr
  exact agreeing.mono fun _ _ _ agrees => and_iff_left agrees.2

end Tests

end KeysetPaging.Sql
