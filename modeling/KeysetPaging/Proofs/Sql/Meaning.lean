import KeysetPaging.Proofs.Sql.Resume

/-!
# What filters mean on tables

A filter of tests is built of comparisons between mapped properties and
constants that their columns take, and of boolean constants.  In memory every
such filter has a meaning.  On a table those without the constant `false` have
one, and it differs from that in memory in one respect: no missing value is
found to differ from a constant.  As filters have no negation, a row selected on
a table is selected in memory as well.
-/

namespace KeysetPaging

namespace Filter

/-- Whether the constant `false` stands for a part of a filter. -/
def hasFalse : Filter → Bool
  | .and left right => left.hasFalse || right.hasFalse
  | .or left right => left.hasFalse || right.hasFalse
  | .constant value => value == .bool false
  | _ => false

end Filter

namespace Sql

/-- A column takes a constant that is bound to it as an equal value. -/
def Column.Takes (column : Column) (constant : Value) : Prop :=
  ∃ bound, Bound.ofValue column.kind constant = .ok bound ∧
    bound.Denotes constant

/-- The filters of tests: combinations of boolean constants and of comparisons
between mapped properties and constants that are null or taken by the column. -/
inductive IsTest (columns : Columns) : Filter → Prop where
  | and {left right : Filter} :
      IsTest columns left → IsTest columns right →
      IsTest columns (.and left right)
  | or {left right : Filter} :
      IsTest columns left → IsTest columns right →
      IsTest columns (.or left right)
  | compare {name : String} {operator : Comparison} {operand : Filter}
      {constant : Value} {column : Column} :
      operand.constant? = some constant →
      columns.column? name = some column →
      constant = .null ∨ column.Takes constant →
      IsTest columns (.compare (.property name) operator operand)
  | constant (value : Bool) : IsTest columns (.constant (.bool value))

variable {columns : Columns} {filter : Filter}

theorem exists_compileComparison {name : String} {constant : Value}
    {column : Column} (located : columns.column? name = some column)
    (taken : constant = .null ∨ column.Takes constant)
    (operator : Comparison) :
    ∃ condition,
      compileComparison columns name operator constant = .ok condition := by
  simp only [compileComparison_eq_ok_iff]
  by_cases missing : constant = .null
  · exact ⟨_, column, located, .inl ⟨missing, rfl⟩⟩
  · obtain ⟨bound, converted, _⟩ := taken.resolve_left missing
    exact ⟨_, column, located, .inr ⟨missing, bound, converted, rfl⟩⟩

theorem Columns.bindsExactly_of_takes {name : String} {constant : Value}
    {column : Column} (located : columns.column? name = some column)
    (taken : constant = .null ∨ column.Takes constant) :
    columns.BindsExactly name constant := by
  intro other bound found converted
  rw [located] at found
  cases found
  rcases taken with rfl | ⟨exact, same, denoted⟩
  · cases kind : column.kind <;> rw [kind] at converted <;> cases converted
  · rw [same] at converted
    cases converted
    exact denoted

namespace IsTest

theorem bindsExactly (isTest : IsTest columns filter) :
    filter.EachComparison fun name _ constant =>
      columns.BindsExactly name constant := by
  induction isTest with
  | and _ _ leftInduction rightInduction =>
      exact ⟨leftInduction, rightInduction⟩
  | or _ _ leftInduction rightInduction =>
      exact ⟨leftInduction, rightInduction⟩
  | compare given located taken =>
      intro constant same
      rw [given] at same
      cases same
      exact Columns.bindsExactly_of_takes located taken
  | constant value => trivial

theorem exists_compile (isTest : IsTest columns filter)
    (without : filter.hasFalse = false) :
    ∃ condition, compile columns filter = .ok condition := by
  induction isTest with
  | and _ _ leftInduction rightInduction =>
      obtain ⟨inLeft, inRight⟩ := Bool.or_eq_false_iff.mp without
      obtain ⟨left, leftCompiled⟩ := leftInduction inLeft
      obtain ⟨right, rightCompiled⟩ := rightInduction inRight
      exact ⟨_, compile_and_eq_ok_iff.mpr
        ⟨left, right, leftCompiled, rightCompiled, rfl⟩⟩
  | or _ _ leftInduction rightInduction =>
      obtain ⟨inLeft, inRight⟩ := Bool.or_eq_false_iff.mp without
      obtain ⟨left, leftCompiled⟩ := leftInduction inLeft
      obtain ⟨right, rightCompiled⟩ := rightInduction inRight
      exact ⟨_, compile_or_eq_ok_iff.mpr
        ⟨left, right, leftCompiled, rightCompiled, rfl⟩⟩
  | @compare name operator _ _ _ given located taken =>
      obtain ⟨condition, compiled⟩ :=
        exists_compileComparison located taken operator
      exact ⟨condition, by simp only [compile, given, compiled]⟩
  | constant value =>
      cases value with
      | false => cases without
      | true => exact ⟨.always, rfl⟩

/-- Whatever joins two parts, the first one with the constant `false` fails. -/
theorem join_eq_error_of_hasFalse {left right : Filter} {fault : Error}
    (leftTest : IsTest columns left)
    (has : (left.hasFalse || right.hasFalse) = true)
    (leftFails : left.hasFalse = true → compile columns left = .error fault)
    (rightFails : right.hasFalse = true → compile columns right = .error fault)
    (join : Condition → Condition → Condition) :
    (do
      let first ← compile columns left
      let second ← compile columns right
      .ok (join first second)) = .error fault := by
  cases inLeft : left.hasFalse with
  | true => rw [leftFails inLeft, Fallible.error_bind]
  | false =>
      obtain ⟨first, compiled⟩ := leftTest.exists_compile inLeft
      have inRight : right.hasFalse = true := by
        rwa [inLeft, Bool.false_or] at has
      rw [compiled, Fallible.ok_bind, rightFails inRight, Fallible.error_bind]

/-- The constant `false` is the only part that a table cannot take. -/
theorem compile_of_hasFalse (isTest : IsTest columns filter)
    (has : filter.hasFalse = true) :
    compile columns filter =
      .error (.invalidFilter (.notBoolean (.constant (.bool false)))) := by
  induction isTest with
  | and leftTest _ leftInduction rightInduction =>
      exact leftTest.join_eq_error_of_hasFalse has leftInduction rightInduction _
  | or leftTest _ leftInduction rightInduction =>
      exact leftTest.join_eq_error_of_hasFalse has leftInduction rightInduction _
  | compare _ _ _ => cases has
  | constant value =>
      cases value with
      | false => rfl
      | true => cases has

end IsTest

/-- A table takes the filters of tests without the constant `false`.  On a row
that the table kept before, the installed condition is true exactly when the
filter holds with its comparisons read as on a table.  Then it is selected in
memory as well, and the other way round if no `ne` meets a missing value. -/
theorem restrict_iff_evaluate (engine : Engine) {query : TableQuery}
    (isTest : IsTest query.columns filter) :
    (filter.hasFalse = true →
      query.restrict filter =
        .error (.invalidFilter (.notBoolean (.constant (.bool false))))) ∧
    (filter.hasFalse = false →
      ∃ restricted condition,
        query.restrict filter = .ok restricted ∧
          restricted.condition? = some condition ∧
          ∀ cells actual : String → Value,
            (filter.EachComparison fun name _ _ =>
              query.columns.Stores cells actual name) →
            ∃ selected,
              filter.evaluate actual = .ok selected ∧
              (condition.truth engine cells = .holds ↔
                Condition.Keeps engine cells query.condition? ∧
                  filter.Holds (TableReading actual)) ∧
              (filter.Holds (TableReading actual) → selected = true) ∧
              ((filter.EachComparison fun name operator constant =>
                  ¬ MissesDifference actual name operator constant) →
                (condition.truth engine cells = .holds ↔
                  Condition.Keeps engine cells query.condition? ∧
                    selected = true))) := by
  constructor
  · intro has
    rw [TableQuery.restrict, isTest.compile_of_hasFalse has]
    rfl
  · intro without
    obtain ⟨compiled, compilation⟩ := isTest.exists_compile without
    have restriction : query.restrict filter = .ok { query with
        condition? := some (.restrict query.condition? compiled) } := by
      rw [TableQuery.restrict, compilation]
      rfl
    refine ⟨_, _, restriction, rfl, ?_⟩
    intro cells actual stores
    have faithful : filter.EachComparison fun name _ constant =>
        Faithful query.columns cells actual name constant :=
      stores.and isTest.bindsExactly
    obtain ⟨selected, evaluated, inMemory⟩ :=
      exists_evaluate_of_compile compilation actual
    have onTable : (Condition.restrict query.condition? compiled).truth engine
        cells = .holds ↔ Condition.Keeps engine cells query.condition? ∧
          filter.Holds (TableReading actual) := by
      rw [Condition.truth_restrict, truth_compile_iff_holds compilation faithful]
    refine ⟨selected, evaluated, onTable, ?_, ?_⟩
    · intro holds
      rw [inMemory]
      exact holds.mono fun _ _ _ read => read.1
    · intro meets
      have same : filter.Holds (TableReading actual) ↔
          filter.Holds (MemoryReading actual) := by
        apply Filter.holds_congr
        exact meets.mono fun _ _ _ met => and_iff_left met
      rw [onTable, same, inMemory]

theorem takes_score : Column.Takes ⟨"score", .int64⟩ (.ofInt64 5) :=
  ⟨.integer 5, rfl, .ofInt64 5, rfl, by decide⟩

theorem stores_score :
    playerTable.columns.Stores unscoredRow unscoredRow "score" := by
  intro column located
  rw [playerTable_column?_score] at located
  cases located
  exact ⟨rfl, .inl rfl⟩

theorem stores_id :
    playerTable.columns.Stores unscoredRow unscoredRow "id" := by
  intro column located
  rw [playerTable_column?_id] at located
  cases located
  exact ⟨rfl, .inr ⟨2, Decimal.toRat_ofInt64 2⟩⟩

/-- Players with a score below five or none, but not the first. -/
def lowScores : Filter :=
  .and (.compare (.property "score") .lt (.constant (.ofInt64 5)))
    (.compare (.property "id") .ne (.parameter 0 (.ofInt64 1)))

/-- A player without a score is among them, on a table as well. -/
theorem restrict_lowScores :
    ∃ restricted condition, playerTable.restrict lowScores = .ok restricted ∧
      restricted.condition? = some condition ∧
        condition.truth .reference unscoredRow = .holds := by
  have isTest : IsTest playerTable.columns lowScores := by
    apply IsTest.and
    · exact .compare rfl playerTable_column?_score (.inr takes_score)
    · exact .compare rfl playerTable_column?_id
        (.inr ⟨.integer 1, rfl, .ofInt64 1, rfl, by decide⟩)
  obtain ⟨restricted, condition, restriction, present, means⟩ :=
    (restrict_iff_evaluate .reference isTest).2 rfl
  have stores : lowScores.EachComparison fun name _ _ =>
      playerTable.columns.Stores unscoredRow unscoredRow name := by
    constructor
    · exact fun _ _ => stores_score
    · exact fun _ _ => stores_id
  have meets : lowScores.EachComparison fun name operator constant =>
      ¬ MissesDifference unscoredRow name operator constant := by
    constructor
    · rintro _ _ ⟨differs, _⟩
      cases differs
    · rintro _ _ ⟨_, missing, _⟩
      cases missing
  obtain ⟨selected, evaluated, _, _, agrees⟩ := means _ _ stores
  refine ⟨restricted, condition, restriction, present, ?_⟩
  apply (agrees meets).mpr
  constructor
  · trivial
  · cases evaluated
    rfl

/-- Players with another score than five. -/
def otherScores : Filter :=
  .compare (.property "score") .ne (.constant (.ofInt64 5))

/-- A player without a score has another score than five in memory and on no
table, and no table takes the constant `false`. -/
theorem meanings_differ :
    (IsTest playerTable.columns otherScores ∧
      playerTable.columns.Stores unscoredRow unscoredRow "score" ∧
      otherScores.evaluate unscoredRow = .ok true ∧
      ∃ restricted condition,
        playerTable.restrict otherScores = .ok restricted ∧
          restricted.condition? = some condition ∧
          ∀ engine : Engine, condition.truth engine unscoredRow = .unknown) ∧
    IsTest playerTable.columns (.constant (.bool false)) ∧
      Filter.evaluate unscoredRow (.constant (.bool false)) = .ok false ∧
      playerTable.restrict (.constant (.bool false)) =
        .error (.invalidFilter (.notBoolean (.constant (.bool false)))) := by
  constructor
  · refine ⟨?_, stores_score, rfl, ?_⟩
    · exact .compare rfl playerTable_column?_score (.inr takes_score)
    · have compiled : compile playerTable.columns otherScores =
          .ok (compareBound "score" .ne (.integer 5)) := by
        have located := playerTable_column?_score
        simp only [otherScores, compile, Filter.constant?, compileComparison,
          located]
        rfl
      refine ⟨_, _, by rw [TableQuery.restrict, compiled]; rfl, rfl, ?_⟩
      intro engine
      exact (Condition.truth_single engine unscoredRow _).trans
        (engine.test_null .ne (.integer 5))
  · exact ⟨.constant false, rfl, rfl⟩

end Sql

end KeysetPaging
