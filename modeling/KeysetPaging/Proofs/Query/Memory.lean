import KeysetPaging.Proofs.Fallible
import KeysetPaging.Proofs.Keyset.After
import KeysetPaging.Proofs.Query.Sorting

/-!
# Queries in memory

A query whose filters never fail executes to the sorted records that pass them.
Restricted to the records after a position it executes to the part of the whole
outcome that lies after the position, in the order of the whole.
-/

namespace KeysetPaging

namespace MemoryQuery

variable {ρ : Type} [Record ρ]

theorem select_eq_filter {filters : List Filter} {keep : ρ → Bool}
    {records : List ρ}
    (decided : ∀ record ∈ records, passes record filters = .ok (keep record)) :
    select filters records = .ok (records.filter keep) := by
  induction records with
  | nil => rfl
  | cons record records induction =>
      have rest := induction fun other member =>
        decided other (List.mem_cons_of_mem record member)
      rw [select, decided record List.mem_cons_self, Fallible.ok_bind, rest,
        Fallible.ok_bind, List.filter_cons]

theorem execute_of_decided {query : MemoryQuery ρ} {keep : ρ → Bool}
    (decided : ∀ record ∈ query.records,
      passes record query.filters = .ok (keep record)) :
    query.execute =
      .ok (sortRecords query.order (query.records.filter keep)) := by
  rw [execute, select_eq_filter decided, Fallible.ok_bind]

theorem page_of_execute {query : MemoryQuery ρ} {rows : List ρ}
    (executed : query.execute = .ok rows) (size : Nat) :
    query.page size = .ok (rows.take size) := by
  rw [page, executed, Fallible.ok_bind]

theorem execute_of_unfiltered {query : MemoryQuery ρ}
    (unfiltered : query.filters = []) :
    query.execute = .ok (sortRecords query.order query.records) := by
  have decided : ∀ record ∈ query.records,
      passes record query.filters = .ok ((fun _ => true) record) := by
    intro record _
    rw [unfiltered]
    rfl
  rw [execute_of_decided decided, List.filter_true]

theorem passes_append (record : ρ) (filters more : List Filter) :
    passes record (filters ++ more) =
      (passes record filters >>= fun kept =>
        if kept then passes record more else .ok false) := by
  induction filters with
  | nil => rfl
  | cons first filters induction =>
      rw [List.cons_append, passes, passes]
      cases first.evaluate (Record.value record) with
      | error fault => rfl
      | ok holds =>
          cases holds with
          | true => exact induction
          | false => rfl

theorem passes_singleton (record : ρ) (filter : Filter) :
    passes record [filter] = filter.evaluate (Record.value record) := by
  rw [passes]
  cases filter.evaluate (Record.value record) with
  | error fault => rfl
  | ok holds => cases holds <;> rfl

theorem passes_append_singleton {record : ρ} {filters : List Filter}
    {filter : Filter} {kept selected : Bool}
    (decided : passes record filters = .ok kept)
    (evaluated : filter.evaluate (Record.value record) = .ok selected) :
    passes record (filters ++ [filter]) = .ok (selected && kept) := by
  rw [passes_append, decided, Fallible.ok_bind, passes_singleton, evaluated]
  cases kept <;> simp

/-- A further filter leaves the records of the outcome that it holds of, where
they are. -/
theorem execute_addFilter {query : MemoryQuery ρ} {kept selected : ρ → Bool}
    (comparable : AllComparable query.order query.records)
    (decided : ∀ record ∈ query.records,
      passes record query.filters = .ok (kept record))
    {filter : Filter}
    (evaluated : ∀ record,
      filter.evaluate (Record.value record) = .ok (selected record)) :
    (query.addFilter filter).execute =
      .ok ((sortRecords query.order (query.records.filter kept)).filter
        selected) := by
  have both : ∀ record ∈ (query.addFilter filter).records,
      passes record (query.addFilter filter).filters =
        .ok ((fun record => selected record && kept record) record) :=
    fun record member =>
      passes_append_singleton (decided record member) (evaluated record)
  have keptComparable : AllComparable query.order (query.records.filter kept) :=
    fun left leftMember right rightMember =>
      comparable left (List.mem_of_mem_filter leftMember)
        right (List.mem_of_mem_filter rightMember)
  rw [execute_of_decided both, filter_sortRecords keptComparable,
    List.filter_filter]
  rfl

omit [Record ρ] in
theorem applyTo_of_predicate? {query : MemoryQuery ρ}
    (isTyped : query.elementType?.isNone = false)
    {values : PropertyMap Value} {order : SortOrder} {parameterize : Bool}
    {predicate : Filter}
    (built : Keyset.predicate? values order parameterize = some predicate) :
    Keyset.applyTo query values order parameterize =
      .ok (query.addFilter predicate) := by
  simp [Keyset.applyTo, built, Queryable.elementType?, Queryable.applyFilter,
    isTyped]

/-- A query resumes at the records of its own outcome that lie after the
position. -/
theorem exists_execute_applyTo {query : MemoryQuery ρ}
    {values : PropertyMap Value} (nonempty : values.isEmpty = false)
    (isTyped : query.elementType?.isNone = false)
    (unfiltered : query.filters = [])
    (comparable : AllComparable query.order query.records)
    (order : SortOrder) (parameterize : Bool) :
    ∃ (restricted : MemoryQuery ρ) (keep : ρ → Bool),
      Keyset.applyTo query values order parameterize = .ok restricted ∧
        (∀ record, keep record = true ↔
          Keyset.IsAfter order.directions (Record.value record)
            values.entries) ∧
          restricted.execute =
            .ok ((sortRecords query.order query.records).filter keep) := by
  obtain ⟨predicate, built⟩ :=
    Keyset.exists_predicate? nonempty order parameterize
  have evaluation (record : ρ) :=
    Keyset.evaluate_predicate? built (Record.value record)
  let keep (record : ρ) := (evaluation record).choose
  refine ⟨query.addFilter predicate, keep, applyTo_of_predicate? isTyped built,
    fun record => (evaluation record).choose_spec.2, ?_⟩
  have decided : ∀ record ∈ query.records,
      passes record query.filters = .ok ((fun _ => true) record) := by
    intro record _
    rw [unfiltered]
    rfl
  rw [execute_addFilter comparable decided fun record =>
    (evaluation record).choose_spec.1, List.filter_true]

end MemoryQuery

end KeysetPaging
