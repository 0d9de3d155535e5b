import KeysetPaging.Query.Basic

/-!
# Keyset predicates

A token records values for a list of properties, most significant first.  The
keyset predicate selects the entities strictly after that position in
lexicographic order:

    p1 cmp v1
      or (p1 eq v1 and p2 cmp v2)
      or ((p1 eq v1 and p2 eq v2) and p3 cmp v3) ...

where `cmp` is `lt` for a property sorted descending and `gt` for every other,
those absent from the order included.
-/

namespace KeysetPaging

namespace Keyset

/-- The comparison that selects values after a recorded one. -/
def afterOperator : Option Direction → Comparison
  | some .descending => .lt
  | _ => .gt

/-- A recorded value as a constant, lifted into a parameter if asked for.  An
enum member is compared by its underlying integer. -/
def constant (parameterize : Bool) (index : Nat) (value : Value) : Filter :=
  if parameterize then .parameter index value.unwrapEnum
  else .constant value.unwrapEnum

/-- A filter joined to the ones before it by a connective. -/
def join (connective : Filter → Filter → Filter) :
    Option Filter → Filter → Filter
  | none, filter => filter
  | some earlier, filter => connective earlier filter

/-- The predicate for the fields from an index on: `equal` demands that the
fields before it agree, and `found` is the predicate for those fields. -/
def predicateFrom (directions : PropertyMap Direction) (parameterize : Bool) :
    Nat → Option Filter → Option Filter → List (String × Value) → Option Filter
  | _, _, found, [] => found
  | index, equal, found, (name, value) :: rest =>
      let operand := constant parameterize index value
      let operator := afterOperator (directions.get? name)
      let after := join .and equal (.compare (.property name) operator operand)
      let agrees := join .and equal (.compare (.property name) .eq operand)
      predicateFrom directions parameterize (index + 1) (some agrees)
        (some (join .or found after)) rest

/-- The predicate that selects the entities strictly after recorded values.
There is none for an empty record. -/
def predicate? (values : PropertyMap Value) (order : SortOrder)
    (parameterize : Bool) : Option Filter :=
  predicateFrom order.directions parameterize 0 none none values.entries

/-- A query restricted to the entities strictly after recorded values.  Its own
order stays as it is. -/
def applyTo {σ : Type} [Queryable σ] (query : σ) (values : PropertyMap Value)
    (order : SortOrder) (parameterize : Bool) : Except Error σ :=
  if (Queryable.elementType? query).isNone then .error .untypedQuery
  else match predicate? values order parameterize with
    | some predicate => Queryable.applyFilter query predicate
    | none => .ok query

end Keyset

end KeysetPaging
