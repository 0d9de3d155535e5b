import KeysetPaging.Error

/-!
# Queries

Token handling needs two things of a query: whether its element type is known,
and a way to restrict it by a filter.
-/

namespace KeysetPaging

/-- Queries that filters can be installed on. -/
class Queryable (σ : Type) where
  /-- The element type, if it is statically known. -/
  elementType? : σ → Option String
  /-- The query restricted to the elements of which a filter holds. -/
  applyFilter : σ → Filter → Except Error σ

end KeysetPaging
