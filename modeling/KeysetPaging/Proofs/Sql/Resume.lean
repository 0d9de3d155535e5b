import KeysetPaging.Proofs.Keyset.After
import KeysetPaging.Proofs.Sql.Compile

/-!
# Resuming on a database

A token restricts a query in memory and a query on a table to the same
entities: the condition that it installs is true on a row exactly when the
keyset predicate holds of the entity the row stores.  The comparisons of the
predicate are equalities and strict inequalities, so the place where the two
readings of a filter part does not come up.
-/

namespace KeysetPaging.Sql

theorem Bound.ofValue_unwrapEnum (kind : PrimitiveKind) (value : Value) :
    ofValue kind value.unwrapEnum = ofValue kind value := by
  cases value <;> rfl

theorem Columns.bindsExactly_unwrapEnum {columns : Columns} {name : String}
    {value : Value} (exact : columns.BindsExactly name value) :
    columns.BindsExactly name value.unwrapEnum := by
  intro column bound located converted
  rw [Bound.ofValue_unwrapEnum] at converted
  obtain ⟨denoted, present, equal⟩ := exact column bound located converted
  exact ⟨denoted, present, by rwa [Value.equals_unwrapEnum_right]⟩

theorem afterOperator_ne_ne (direction? : Option Direction) :
    Keyset.afterOperator direction? ≠ .ne := by
  rcases direction? with _ | _ | _ <;> decide

theorem TableQuery.truth_restrict {query restricted : TableQuery}
    {filter : Filter} (engine : Engine) (cells : String → Value)
    (succeeded : query.restrict filter = .ok restricted) :
    ∃ compiled condition, compile query.columns filter = .ok compiled ∧
      restricted.condition? = some condition ∧
      (condition.truth engine cells = .holds ↔
        Condition.Keeps engine cells query.condition? ∧
          compiled.truth engine cells = .holds) := by
  obtain ⟨compiled, compilation, rest⟩ := Fallible.bind_eq_ok_iff.mp succeeded
  cases rest
  exact ⟨compiled, _, compilation, rfl,
    Condition.truth_restrict engine cells query.condition? compiled⟩

/-- A token whose constants are bound exactly resumes a query on a table at the
rows that store the entities after its position.  A query without an earlier
condition keeps every row before. -/
theorem truth_applyTo_iff_evaluate (engine : Engine)
    (cells actual : String → Value)
    {query restricted : TableQuery} {values : PropertyMap Value}
    {order : SortOrder} {parameterize : Bool}
    (nonempty : values.isEmpty = false)
    (installed : Keyset.applyTo query values order parameterize = .ok restricted)
    (exact : ∀ field ∈ values.entries,
      query.columns.BindsExactly field.1 field.2)
    (stores : ∀ field ∈ values.entries,
      query.columns.Stores cells actual field.1) :
    ∃ predicate condition,
      Keyset.predicate? values order parameterize = some predicate ∧
        restricted.condition? = some condition ∧
          (condition.truth engine cells = .holds ↔
            Condition.Keeps engine cells query.condition? ∧
              predicate.evaluate actual = .ok true) := by
  cases built : Keyset.predicate? values order parameterize with
  | none =>
      rw [Keyset.predicate?_eq_none_iff, nonempty] at built
      cases built
  | some predicate =>
      have restriction : query.restrict predicate = .ok restricted := by
        simpa [Keyset.applyTo, built, Queryable.elementType?,
          Queryable.applyFilter] using installed
      obtain ⟨compiled, condition, compilation, present, meaning⟩ :=
        TableQuery.truth_restrict engine cells restriction
      have agreeing :
          predicate.EachComparison (Agreeing query.columns cells actual) := by
        refine Keyset.eachComparison_predicateFrom values.entries ?_ 0 none none
          (by simp) (by simp) predicate built
        intro field member
        have stored := stores field member
        have bound := Columns.bindsExactly_unwrapEnum (exact field member)
        exact ⟨⟨⟨stored, bound⟩, fun misses => absurd misses.1 (by decide)⟩,
          ⟨⟨stored, bound⟩, fun misses => afterOperator_ne_ne _ misses.1⟩⟩
      obtain ⟨selected, evaluated, same⟩ :=
        truth_compile_iff compilation agreeing
      refine ⟨predicate, condition, rfl, present, ?_⟩
      rw [meaning, same, evaluated]
      simp

/-- Players have a number, and some have a score. -/
def playerTable : TableQuery where
  elementType := "Default.Player"
  columns := ({ entityName := "Player" } : Columns)
    |>.insert "id" ⟨"id", .int64⟩
    |>.insert "score" ⟨"score", .int64⟩

/-- A page that ended at a player without a score. -/
def unscoredPosition : PropertyMap Value :=
  .ofList [("score", .null), ("id", .ofInt64 1)]

/-- The row of another player without a score. -/
def unscoredRow (column : String) : Value :=
  if column = "id" then .ofInt64 2 else .null

theorem unscoredPosition_entries :
    unscoredPosition.entries = [("score", .null), ("id", .ofInt64 1)] := by
  decide

theorem playerTable_column?_score :
    playerTable.columns.column? "score" = some ⟨"score", .int64⟩ := by
  decide +kernel

theorem playerTable_column?_id :
    playerTable.columns.column? "id" = some ⟨"id", .int64⟩ := by
  decide +kernel

/-- After a player without a score the next one comes, though its score is
missing as well. -/
theorem truth_applyTo_unscored :
    ∃ restricted condition,
      Keyset.applyTo playerTable unscoredPosition
          [⟨"score", .ascending, false⟩] true = .ok restricted ∧
        restricted.condition? = some condition ∧
          condition.truth .reference unscoredRow = .holds := by
  have installed : ∃ restricted, Keyset.applyTo playerTable unscoredPosition
      [⟨"score", .ascending, false⟩] true = .ok restricted := ⟨_, rfl⟩
  obtain ⟨restricted, installed⟩ := installed
  have exact : ∀ field ∈ unscoredPosition.entries,
      playerTable.columns.BindsExactly field.1 field.2 := by
    rw [unscoredPosition_entries]
    intro field member column bound located converted
    rcases List.mem_cons.mp member with rfl | member
    · rw [playerTable_column?_score] at located
      cases located
      cases converted
    · rw [List.mem_singleton.mp member] at located converted ⊢
      rw [playerTable_column?_id] at located
      cases located
      cases converted
      exact ⟨.ofInt64 1, rfl, by decide⟩
  have stores : ∀ field ∈ unscoredPosition.entries,
      playerTable.columns.Stores unscoredRow unscoredRow field.1 := by
    rw [unscoredPosition_entries]
    intro field member column located
    rcases List.mem_cons.mp member with rfl | member
    · rw [playerTable_column?_score] at located
      cases located
      exact ⟨rfl, .inl rfl⟩
    · rw [List.mem_singleton.mp member] at located ⊢
      rw [playerTable_column?_id] at located
      cases located
      exact ⟨rfl, .inr ⟨2, Decimal.toRat_ofInt64 2⟩⟩
  obtain ⟨predicate, condition, built, present, meaning⟩ :=
    truth_applyTo_iff_evaluate .reference unscoredRow unscoredRow (by decide)
      installed exact stores
  refine ⟨restricted, condition, installed, present, meaning.mpr ⟨trivial, ?_⟩⟩
  cases built
  rfl

end KeysetPaging.Sql
