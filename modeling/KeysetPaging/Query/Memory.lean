import KeysetPaging.Entity
import KeysetPaging.Filter.Evaluate
import KeysetPaging.Query.Basic

/-!
# Queries in memory

A query over a list of records: the records of which every filter holds, sorted
by the query's order.  Filters are tried in the order they were installed, and
each record stops at the first that fails, so a malformed filter is a fault only
when some record reaches it.

The sort inserts each record after the last one it does not precede.  Records
that tie therefore keep their order, and the outcome is determined even where
values of mixed kinds leave the comparison without transitivity.
-/

namespace KeysetPaging

namespace SortOrder

/-- The order of two values in a direction.  Values of different kinds tie. -/
def compareValues (direction : Direction) (left right : Value) : Ordering :=
  match direction with
  | .ascending => (left.compareNullsFirst right).getD .eq
  | .descending => (right.compareNullsFirst left).getD .eq

/-- The order of two entities, given by the values of their properties. -/
def compareBy (left right : String → Value) : SortOrder → Ordering
  | [] => .eq
  | term :: rest =>
      (compareValues term.direction (left term.name) (right term.name)).then
        (compareBy left right rest)

end SortOrder

structure MemoryQuery (ρ : Type) where
  elementType? : Option String
  records : List ρ
  order : SortOrder := []
  filters : List Filter := []

namespace MemoryQuery

variable {ρ : Type} [Record ρ]

/-- The query over records whose element type is their runtime type. -/
def ofRecords (records : List ρ) : MemoryQuery ρ where
  elementType? := some (Record.typeName ρ)
  records := records

/-- The query over records without a known element type. -/
def untyped (records : List ρ) : MemoryQuery ρ where
  elementType? := none
  records := records

def orderBy (query : MemoryQuery ρ) (order : SortOrder) : MemoryQuery ρ :=
  { query with order := order }

def addFilter (query : MemoryQuery ρ) (filter : Filter) : MemoryQuery ρ :=
  { query with filters := query.filters ++ [filter] }

instance : Queryable (MemoryQuery ρ) where
  elementType? query := query.elementType?
  applyFilter query filter := .ok (query.addFilter filter)

/-- Whether every filter holds of a record, up to the first that fails. -/
def passes (record : ρ) : List Filter → Except FilterFault Bool
  | [] => .ok true
  | filter :: rest => do
      if ← filter.evaluate (Record.value record) then passes record rest
      else .ok false

/-- The records of which every filter holds, in their given order. -/
def select (filters : List Filter) : List ρ → Except FilterFault (List ρ)
  | [] => .ok []
  | record :: rest => do
      let kept ← passes record filters
      let others ← select filters rest
      .ok (if kept then record :: others else others)

/-- Inserts a record into records sorted last first: before the first one that
it does not precede. -/
def insertRecord (order : SortOrder) (record : ρ) : List ρ → List ρ
  | [] => [record]
  | last :: earlier =>
      if order.compareBy (Record.value record) (Record.value last) = .lt then
        last :: insertRecord order record earlier
      else record :: last :: earlier

/-- Records sorted by an order, ties in their given order. -/
def sortRecords (order : SortOrder) (records : List ρ) : List ρ :=
  (records.foldl (fun sorted record => insertRecord order record sorted)
    []).reverse

/-- The records of which every filter holds, sorted. -/
def execute (query : MemoryQuery ρ) : Except FilterFault (List ρ) := do
  let selected ← select query.filters query.records
  .ok (sortRecords query.order selected)

def page (query : MemoryQuery ρ) (size : Nat) : Except FilterFault (List ρ) := do
  let sorted ← query.execute
  .ok (sorted.take size)

end MemoryQuery

end KeysetPaging
