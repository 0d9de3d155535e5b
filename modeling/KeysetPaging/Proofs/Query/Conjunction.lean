import KeysetPaging.Proofs.Query.Memory
import KeysetPaging.Proofs.Sql.Truth
import KeysetPaging.Sql.Query

/-!
# Installing filters one by one

Filters that are installed on a query one after another restrict it as their
conjunction does.  In memory this needs a look at the faults: a malformed filter
is a fault only for the records that reach it, and the filters of a list and the
operands of a conjunction are reached by the same records.  On a table the
conditions differ in their nesting, but not in their faults, their bound values
or the rows that they keep.

Both are instances of one argument.  It is enough that no filter tells apart
queries that are alike, and that two filters in turn give a query alike to the
one that their conjunction gives.
-/

namespace KeysetPaging

open Fallible (EndsAlike)

/-- The conjunction of filters, nested to the left. -/
def Filter.conjoin (first : Filter) (rest : List Filter) : Filter :=
  rest.foldl .and first

/-- A likeness of queries that no filter breaks, and for which a conjunction is
as good as its two operands in turn. -/
structure JoinsFilters {σ : Type} [Queryable σ] (alike : σ → σ → Prop) :
    Prop where
  refl : ∀ query, alike query query
  trans : ∀ left middle right, alike left middle → alike middle right →
    alike left right
  respects : ∀ {left right} filter, alike left right →
    EndsAlike alike (Queryable.applyFilter left filter)
      (Queryable.applyFilter right filter)
  joins : ∀ query left right,
    EndsAlike alike
      (Queryable.applyFilter query left >>= fun restricted =>
        Queryable.applyFilter restricted right)
      (Queryable.applyFilter query (.and left right))

/-- By induction on the filters after the first: the first two give way to their
conjunction, and what the others do to the one query they do to the other. -/
theorem JoinsFilters.foldlM_applyFilter {σ : Type} [Queryable σ]
    {alike : σ → σ → Prop} (joined : JoinsFilters alike) (query : σ)
    (first : Filter) (rest : List Filter) :
    EndsAlike alike ((first :: rest).foldlM Queryable.applyFilter query)
      (Queryable.applyFilter query (first.conjoin rest)) := by
  induction rest generalizing first with
  | nil =>
      rw [List.foldlM_cons]
      simp only [List.foldlM_nil, bind_pure]
      exact .refl joined.refl _
  | cons second rest induction =>
      have pair : EndsAlike alike
          ((first :: second :: rest).foldlM Queryable.applyFilter query)
          ((first.and second :: rest).foldlM Queryable.applyFilter query) := by
        simp only [List.foldlM_cons, ← bind_assoc]
        exact (joined.joins query first second).bind fun start =>
          .foldlM joined.respects rest start
      exact .trans joined.trans pair (induction (first.and second))

namespace MemoryQuery

variable {ρ : Type} [Record ρ]

/-- Queries over the same records, of which the same pass, with the same faults
on the way. -/
structure SelectsAlike (left right : MemoryQuery ρ) : Prop where
  elementType : left.elementType? = right.elementType?
  records : left.records = right.records
  order : left.order = right.order
  passes : ∀ record : ρ,
    passes record left.filters = passes record right.filters

theorem select_congr {filters others : List Filter}
    (alike : ∀ record : ρ, passes record filters = passes record others)
    (records : List ρ) : select filters records = select others records := by
  induction records with
  | nil => rfl
  | cons record records induction =>
      rw [select, select, alike record, induction]

theorem SelectsAlike.execute_eq {left right : MemoryQuery ρ}
    (alike : SelectsAlike left right) : left.execute = right.execute := by
  rw [execute, execute, alike.records, alike.order, select_congr alike.passes]

theorem passes_and (record : ρ) (filters : List Filter) (left right : Filter) :
    passes record (filters ++ [left] ++ [right]) =
      passes record (filters ++ [left.and right]) := by
  rw [List.append_assoc, passes_append, passes_append record _ [left.and right]]
  refine bind_congr fun kept => ?_
  rw [passes_singleton, List.singleton_append, passes, passes_singleton]
  rfl

theorem joinsFilters : JoinsFilters (@SelectsAlike ρ _) where
  refl _ := ⟨rfl, rfl, rfl, fun _ => rfl⟩
  trans _ _ _ near far :=
    ⟨near.elementType.trans far.elementType, near.records.trans far.records,
      near.order.trans far.order,
      fun record => (near.passes record).trans (far.passes record)⟩
  respects filter alike := by
    refine .value ⟨alike.elementType, alike.records, alike.order, ?_⟩
    intro record
    simp only [addFilter, passes_append, alike.passes]
  joins query left right :=
    .value ⟨rfl, rfl, rfl,
      fun record => passes_and record query.filters left right⟩

end MemoryQuery

namespace Sql

namespace Condition

theorem memberValues_append (members more : List Condition) :
    memberValues (members ++ more) =
      memberValues members ++ memberValues more := by
  induction members with
  | nil => rfl
  | cons member members induction =>
      rw [List.cons_append, memberValues, memberValues, induction,
        List.append_assoc]

@[simp] theorem values_asMember (condition : Condition) :
    condition.asMember.values = condition.values := by
  unfold asMember
  split
  · simp [values, memberValues]
  · rfl

@[simp] theorem values_pair (connective : Connective) (left right : Condition) :
    (pair connective left right).values = left.values ++ right.values := by
  simp [pair, values, memberValues]

theorem values_restrict (current? : Option Condition) (added : Condition) :
    (restrict current? added).values =
      (current?.map values).getD [] ++ added.values := by
  unfold restrict
  split
  · simp
  · simp [values, memberValues_append]
  · simp [values, memberValues_append, memberValues]
  · simp

end Condition

namespace TableQuery

/-- Queries on the same table that bind the same values in the same order and
keep the same rows. -/
structure BindsAlike (left right : TableQuery) : Prop where
  elementType : left.elementType = right.elementType
  columns : left.columns = right.columns
  boundValues : left.boundValues = right.boundValues
  keeps : ∀ engine cells, Condition.Keeps engine cells left.condition? ↔
    Condition.Keeps engine cells right.condition?

/-- The query restricted by a condition. -/
def restrictBy (query : TableQuery) (condition : Condition) : TableQuery :=
  { query with condition? := some (.restrict query.condition? condition) }

theorem applyFilter_eq (query : TableQuery) (filter : Filter) :
    Queryable.applyFilter query filter =
      (compile query.columns filter).map query.restrictBy := by
  simp only [Queryable.applyFilter, restrict]
  cases compile query.columns filter with
  | error fault => rfl
  | ok condition => rfl

theorem boundValues_restrictBy (query : TableQuery) (condition : Condition) :
    (query.restrictBy condition).boundValues =
      query.boundValues ++ condition.values :=
  Condition.values_restrict query.condition? condition

theorem keeps_restrictBy (engine : Engine) (cells : String → Value)
    (query : TableQuery) (condition : Condition) :
    Condition.Keeps engine cells (query.restrictBy condition).condition? ↔
      Condition.Keeps engine cells query.condition? ∧
        condition.truth engine cells = .holds :=
  Condition.truth_restrict engine cells query.condition? condition

theorem BindsAlike.restrictBy {left right : TableQuery}
    (alike : BindsAlike left right) (condition : Condition) :
    BindsAlike (left.restrictBy condition) (right.restrictBy condition) where
  elementType := alike.elementType
  columns := alike.columns
  boundValues := by
    rw [boundValues_restrictBy, boundValues_restrictBy, alike.boundValues]
  keeps engine cells := by
    rw [keeps_restrictBy, keeps_restrictBy, alike.keeps]

theorem bindsAlike_pair (query : TableQuery) (left right : Condition) :
    BindsAlike ((query.restrictBy left).restrictBy right)
      (query.restrictBy (.pair .all left right)) where
  elementType := rfl
  columns := rfl
  boundValues := by
    simp only [boundValues_restrictBy, Condition.values_pair, List.append_assoc]
  keeps engine cells := by
    simp only [keeps_restrictBy, Condition.truth_pair_all,
      Truth.and_eq_holds_iff, and_assoc]

theorem joinsFilters : JoinsFilters BindsAlike where
  refl _ := ⟨rfl, rfl, rfl, fun _ _ => Iff.rfl⟩
  trans _ _ _ near far :=
    ⟨near.elementType.trans far.elementType, near.columns.trans far.columns,
      near.boundValues.trans far.boundValues, fun engine cells =>
        (near.keeps engine cells).trans (far.keeps engine cells)⟩
  respects {left right} filter alike := by
    rw [applyFilter_eq, applyFilter_eq, alike.columns]
    cases compile right.columns filter with
    | error fault => exact .fault fault
    | ok condition => exact .value (alike.restrictBy condition)
  joins query left right := by
    simp only [applyFilter_eq, compile]
    cases compile query.columns left with
    | error fault => exact .fault fault
    | ok first =>
        -- The columns are the same for the second filter as for the first.
        change EndsAlike BindsAlike
          ((compile query.columns right).map
            (query.restrictBy first).restrictBy) _
        cases compile query.columns right with
        | error fault => exact .fault fault
        | ok second => exact .value (bindsAlike_pair query first second)

end TableQuery

end Sql

/-- Filters that are installed in turn restrict a query as their left-nested
conjunction does, whatever the filters are and whatever was installed before.
In memory both queries execute to the same records or the same fault.  On a
table both are refused with the same error, or both are accepted and then bind
the same values in the same order and keep the same rows. -/
theorem installing_in_turn_as_conjunction (first : Filter)
    (rest : List Filter) :
    (∀ (ρ : Type) [Record ρ] (query : MemoryQuery ρ),
      ∃ inTurn atOnce : MemoryQuery ρ,
        (first :: rest).foldlM Queryable.applyFilter query = .ok inTurn ∧
        Queryable.applyFilter query (first.conjoin rest) = .ok atOnce ∧
        inTurn.execute = atOnce.execute) ∧
    (∀ query : Sql.TableQuery,
      EndsAlike Sql.TableQuery.BindsAlike
        ((first :: rest).foldlM Queryable.applyFilter query)
        (Queryable.applyFilter query (first.conjoin rest))) := by
  constructor
  · intro ρ _ query
    have ends := MemoryQuery.joinsFilters.foldlM_applyFilter query first rest
    have applied : Queryable.applyFilter query (first.conjoin rest) =
        .ok (query.addFilter (first.conjoin rest)) := rfl
    rw [applied] at ends ⊢
    obtain ⟨inTurn, ran, alike⟩ := ends.exists_of_ok
    exact ⟨inTurn, _, ran, rfl, alike.execute_eq⟩
  · exact fun query =>
      Sql.TableQuery.joinsFilters.foldlM_applyFilter query first rest

end KeysetPaging
