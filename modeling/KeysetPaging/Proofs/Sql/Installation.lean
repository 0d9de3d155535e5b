import KeysetPaging.Proofs.PropertyMap
import KeysetPaging.Proofs.Sql.Resume

/-!
# Installing a token on a table

A token is installed on a query by compiling its keyset predicate.  The
predicate names a recorded property once for every field from its own on, but
the loop that builds it puts the comparisons for a field behind everything that
concerns the fields before it.  So compiling it meets the fields in the order in
which they are recorded, and stops at the first whose property is not mapped or
whose value the column cannot take.

What is wrong with a field is settled by its own comparison: neither the
operator nor the spelling of the constant makes a difference.
-/

namespace KeysetPaging.Sql

open Fallible (fault?)

namespace Columns

/-- The columns can bind a recorded field: its property is mapped, and its
value, an enum member by its integer, is null or bound to the column. -/
def CanBind (columns : Columns) (field : String × Value) : Prop :=
  ∃ column, columns.column? field.1 = some column ∧
    (field.2.unwrapEnum = .null ∨
      ∃ bound, Bound.ofValue column.kind field.2.unwrapEnum = .ok bound)

/-- What keeps the columns from binding a recorded field. -/
def fieldFault? (columns : Columns) (field : String × Value) : Option Error :=
  match columns.column? field.1 with
  | none => some (.unknownProperty columns.entityName field.1)
  | some column =>
      match field.2.unwrapEnum with
      | .null => none
      | value => (fault? (Bound.ofValue column.kind value)).map .invalidFilter

theorem fieldFault?_eq_none_iff {columns : Columns} {field : String × Value} :
    columns.fieldFault? field = none ↔ columns.CanBind field := by
  unfold fieldFault? CanBind
  cases columns.column? field.1 with
  | none => simp
  | some column =>
      simp only [Option.some.injEq, exists_eq_left']
      cases field.2.unwrapEnum with
      | null => simp
      | _ => simp [Fallible.fault?_eq_none_iff]

/-- The columns with fields mapped one after another. -/
def insertAll (columns : Columns) (fields : List (String × Column)) : Columns :=
  fields.foldl (fun columns field => columns.insert field.1 field.2) columns

def ofFields (entityName : String) (fields : List (String × Column)) :
    Columns :=
  insertAll { entityName } fields

theorem mapped_insertAll (columns : Columns) (fields : List (String × Column)) :
    (columns.insertAll fields).mapped =
      columns.mapped.insertAll
        (fields.map fun field => (Text.lower field.1, field.2)) := by
  induction fields generalizing columns with
  | nil => rfl
  | cons field fields induction => exact induction _

theorem column?_ofFields (entityName : String) (fields : List (String × Column))
    (name : String) :
    (ofFields entityName fields).column? name =
      (fields.reverse.find? fun field =>
        Text.lower field.1 == Text.lower name).map Prod.snd := by
  have lastPair := PropertyMap.get?_ofList
    (fields.map fun field => (Text.lower field.1, field.2)) (Text.lower name)
  rw [← List.map_reverse, List.find?_map, Option.map_map] at lastPair
  rw [column?, ofFields, mapped_insertAll]
  exact lastPair

end Columns

variable {columns : Columns} {field : String × Value}

/-- A filter compares the property of a field with its value and does nothing
else: the value is a constant or a parameter, and an enum member may have given
way to its integer. -/
def IsComparisonOf (field : String × Value) (filter : Filter) : Prop :=
  ∃ operator operand value,
    filter = .compare (.property field.1) operator operand ∧
      operand.constant? = some value ∧
        value.unwrapEnum = field.2.unwrapEnum

theorem unwrapEnum_unwrapEnum (value : Value) :
    value.unwrapEnum.unwrapEnum = value.unwrapEnum := by
  cases value <;> rfl

theorem isComparisonOf_constant (field : String × Value)
    (operator : Comparison) (parameterize : Bool) (index : Nat) :
    IsComparisonOf field (.compare (.property field.1) operator
      (Keyset.constant parameterize index field.2)) :=
  ⟨operator, _, _, rfl, Keyset.constant?_constant parameterize index field.2,
    unwrapEnum_unwrapEnum field.2⟩

theorem fault?_compileComparison {name : String} {value : Value}
    (operator : Comparison) :
    fault? (compileComparison columns name operator value) =
      columns.fieldFault? (name, value) := by
  unfold compileComparison Columns.fieldFault?
  cases columns.column? name with
  | none => rfl
  | some column =>
      cases value with
      | null => rfl
      | _ =>
          rw [Fallible.fault?_mapError, Fallible.fault?_map]
          rfl

theorem fieldFault?_congr {name : String} {left right : Value}
    (same : left.unwrapEnum = right.unwrapEnum) :
    columns.fieldFault? (name, left) = columns.fieldFault? (name, right) := by
  simp only [Columns.fieldFault?, same]

/-- The comparison of a field fails as the field does, by any operator. -/
theorem fault?_compile_of_isComparisonOf {filter : Filter}
    (comparison : IsComparisonOf field filter) :
    fault? (compile columns filter) = columns.fieldFault? field := by
  obtain ⟨operator, operand, value, rfl, given, same⟩ := comparison
  simp only [compile, given]
  rw [fault?_compileComparison, fieldFault?_congr same]

/-- The fault of a filter that may be absent. -/
def filterFault? (columns : Columns) (filter? : Option Filter) : Option Error :=
  filter?.bind fun filter => fault? (compile columns filter)

theorem fault?_compile_and (columns : Columns) (left right : Filter) :
    fault? (compile columns (.and left right)) =
      (fault? (compile columns left)).or (fault? (compile columns right)) :=
  Fallible.fault?_both _ _ _

theorem fault?_compile_or (columns : Columns) (left right : Filter) :
    fault? (compile columns (.or left right)) =
      (fault? (compile columns left)).or (fault? (compile columns right)) :=
  Fallible.fault?_both _ _ _

theorem filterFault?_join {connective : Filter → Filter → Filter}
    (both : ∀ left right, fault? (compile columns (connective left right)) =
      (fault? (compile columns left)).or (fault? (compile columns right)))
    (earlier? : Option Filter) (filter : Filter) :
    filterFault? columns (some (Keyset.join connective earlier? filter)) =
      (filterFault? columns earlier?).or (filterFault? columns (some filter)) := by
  cases earlier? with
  | none => rfl
  | some earlier => exact both earlier filter

/-- The loop of the predicate, from any point on.  The conjunction of equalities
and the disjunction found so far concern the same fields, so they fail alike;
what comes from a field is joined behind both. -/
theorem filterFault?_predicateFrom (columns : Columns)
    (directions : PropertyMap Direction) (parameterize : Bool)
    (fields : List (String × Value)) :
    ∀ (index : Nat) (equal found : Option Filter),
      filterFault? columns equal = filterFault? columns found →
      filterFault? columns
          (Keyset.predicateFrom directions parameterize index equal found
            fields) =
        (filterFault? columns found).or
          (fields.findSome? columns.fieldFault?) := by
  induction fields with
  | nil =>
      intro index equal found _
      rw [List.findSome?_nil, Option.or_none]
      rfl
  | cons field fields induction =>
      intro index equal found alike
      have single (operator : Comparison) : filterFault? columns
          (some (.compare (.property field.1) operator
            (Keyset.constant parameterize index field.2))) =
          columns.fieldFault? field :=
        fault?_compile_of_isComparisonOf
          (isComparisonOf_constant field operator parameterize index)
      have agrees := filterFault?_join (fault?_compile_and columns) equal
        (.compare (.property field.1) .eq
          (Keyset.constant parameterize index field.2))
      have selects := filterFault?_join (fault?_compile_or columns) found
        (Keyset.join .and equal (.compare (.property field.1)
          (Keyset.afterOperator (directions.get? field.1))
          (Keyset.constant parameterize index field.2)))
      rw [single, alike] at agrees
      rw [filterFault?_join (fault?_compile_and columns), single, alike,
        ← Option.or_assoc, Option.or_self] at selects
      rw [Keyset.predicateFrom, induction _ _ _ (agrees.trans selects.symm),
        selects, List.findSome?_cons, Option.or_assoc]
      cases columns.fieldFault? field <;> rfl

theorem fault?_applyTo (query : TableQuery) (values : PropertyMap Value)
    (order : SortOrder) (parameterize : Bool) :
    fault? (Keyset.applyTo query values order parameterize) =
      values.entries.findSome? query.columns.fieldFault? := by
  have looped := filterFault?_predicateFrom query.columns order.directions
    parameterize values.entries 0 none none rfl
  rw [← Keyset.predicate?, filterFault?, filterFault?, Option.bind_none,
    Option.none_or] at looped
  rw [← looped]
  unfold Keyset.applyTo
  cases Keyset.predicate? values order parameterize with
  | none => rfl
  | some predicate => exact Fallible.fault?_bind_ok _ _

/-- A token is installed exactly when the columns can bind all its fields, in
whatever order the query is sorted.  Otherwise the fault is that of the first
other field, and it is the one that a comparison of this field alone reports.
Whether and how such a comparison fails is settled by the field: no operator
and no spelling of the constant changes it.  Properties are found in any letter
case, by the last field that was mapped under the name. -/
theorem applyTo_stops_at_first_fault (query : TableQuery)
    (values : PropertyMap Value) (order : SortOrder) (parameterize : Bool) :
    ((∃ restricted,
        Keyset.applyTo query values order parameterize = .ok restricted) ↔
      ∀ field ∈ values.entries, query.columns.CanBind field) ∧
    (∀ fault, Keyset.applyTo query values order parameterize = .error fault ↔
      ∃ before field after, values.entries = before ++ field :: after ∧
        (∀ earlier ∈ before, query.columns.CanBind earlier) ∧
        ∀ comparison, IsComparisonOf field comparison →
          compile query.columns comparison = .error fault) ∧
    (∀ field, query.columns.CanBind field → ∀ comparison,
      IsComparisonOf field comparison →
        ∃ condition, compile query.columns comparison = .ok condition) ∧
    (∀ field, ¬ query.columns.CanBind field → ∃ fault, ∀ comparison,
      IsComparisonOf field comparison →
        compile query.columns comparison = .error fault) ∧
    (∀ entityName fields name, (Columns.ofFields entityName fields).column? name =
      (fields.reverse.find? fun field =>
        Text.lower field.1 == Text.lower name).map Prod.snd) := by
  refine ⟨?_, ?_, ?_, ?_, Columns.column?_ofFields⟩
  · rw [← Fallible.fault?_eq_none_iff, fault?_applyTo,
      List.findSome?_eq_none_iff]
    exact forall₂_congr fun field _ => Columns.fieldFault?_eq_none_iff
  · intro fault
    rw [← Fallible.fault?_eq_some_iff, fault?_applyTo,
      List.findSome?_eq_some_iff]
    constructor
    · rintro ⟨before, field, after, split, fails, bound⟩
      refine ⟨before, field, after, split, ?_, ?_⟩
      · intro earlier member
        exact Columns.fieldFault?_eq_none_iff.mp (bound earlier member)
      · intro comparison ofField
        rw [← Fallible.fault?_eq_some_iff,
          fault?_compile_of_isComparisonOf ofField, fails]
    · rintro ⟨before, field, after, split, bound, fails⟩
      refine ⟨before, field, after, split, ?_, ?_⟩
      · have ofField := isComparisonOf_constant field .eq false 0
        rw [← fault?_compile_of_isComparisonOf ofField, fails _ ofField]
        rfl
      · intro earlier member
        exact Columns.fieldFault?_eq_none_iff.mpr (bound earlier member)
  · intro field canBind comparison ofField
    rw [← Fallible.fault?_eq_none_iff, fault?_compile_of_isComparisonOf ofField]
    exact Columns.fieldFault?_eq_none_iff.mpr canBind
  · intro field cannotBind
    obtain ⟨fault, fails⟩ := Option.ne_none_iff_exists'.mp
      (Columns.fieldFault?_eq_none_iff.not.mpr cannotBind)
    refine ⟨fault, fun comparison ofField => ?_⟩
    rw [← Fallible.fault?_eq_some_iff, fault?_compile_of_isComparisonOf ofField,
      fails]

/-- Of two fields that cannot be bound the first one is reported, though the
query is sorted by the second. -/
theorem applyTo_stops_at_first_fault_score :
    Keyset.applyTo playerTable
        (.ofList [("ID", .ofInt64 1), ("score", .string "high"),
          ("rank", .null)])
        [⟨"rank", .descending, false⟩] false =
      .error (.invalidFilter (.typeMismatch .int64 (.string "high"))) := by
  refine ((applyTo_stops_at_first_fault _ _ _ _).2.1 _).mpr
    ⟨[("ID", .ofInt64 1)], ("score", .string "high"), [("rank", .null)],
      rfl, ?_, ?_⟩
  · intro earlier member
    rw [List.mem_singleton.mp member]
    exact ⟨_, rfl, .inr ⟨_, rfl⟩⟩
  · intro comparison ofField
    rw [← Fallible.fault?_eq_some_iff, fault?_compile_of_isComparisonOf ofField]
    rfl

end KeysetPaging.Sql
