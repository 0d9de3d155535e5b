import KeysetPaging.Proofs.Keyset.After
import KeysetPaging.Sql.Query

/-!
# Constants lifted into parameters

A keyset predicate can be spelled with its constants in place or lifted into
numbered parameters.  Each constant comes up once in a comparison of its own and
again in the equalities that later fields demand, so its number comes up at many
depths; the number of a parameter is the place of its field all the same.

Filters in general do notice the spelling: a boolean constant is a filter, and a
parameter is none.  In filters that only compare properties with constants the
two are read alike, in memory and on a table.
-/

namespace KeysetPaging

namespace Filter

/-- A filter with every parameter replaced by its value. -/
def inlined : Filter → Filter
  | .and left right => .and left.inlined right.inlined
  | .or left right => .or left.inlined right.inlined
  | .compare left operator right =>
      .compare left.inlined operator right.inlined
  | .property name => .property name
  | .constant value => .constant value
  | .parameter _ value => .constant value

/-- The parameters of a filter with their values, in the order in which the
filter shows them. -/
def parameters : Filter → List (Nat × Value)
  | .and left right => left.parameters ++ right.parameters
  | .or left right => left.parameters ++ right.parameters
  | .compare left _ right => left.parameters ++ right.parameters
  | .property _ => []
  | .constant _ => []
  | .parameter index value => [(index, value)]

/-- A filter is made of comparisons of properties with constants or
parameters. -/
inductive ComparesConstants : Filter → Prop where
  | and {left right : Filter} : left.ComparesConstants →
      right.ComparesConstants → ComparesConstants (.and left right)
  | or {left right : Filter} : left.ComparesConstants →
      right.ComparesConstants → ComparesConstants (.or left right)
  | compare (name : String) (operator : Comparison) {operand : Filter}
      {value : Value} : operand.constant? = some value →
        ComparesConstants (.compare (.property name) operator operand)

@[simp] theorem constant?_inlined (filter : Filter) :
    filter.inlined.constant? = filter.constant? := by
  cases filter <;> rfl

theorem evaluate_inlined {filter : Filter} (compares : filter.ComparesConstants)
    (values : String → Value) :
    filter.inlined.evaluate values = filter.evaluate values := by
  induction compares with
  | and _ _ leftInduction rightInduction =>
      rw [inlined, evaluate, evaluate, leftInduction, rightInduction]
  | or _ _ leftInduction rightInduction =>
      rw [inlined, evaluate, evaluate, leftInduction, rightInduction]
  | @compare name operator operand value given =>
      have givenInlined : operand.inlined.constant? = some value := by
        rw [constant?_inlined, given]
      rw [inlined, inlined, evaluate_compare givenInlined,
        evaluate_compare given]

end Filter

theorem Sql.compile_inlined {filter : Filter}
    (compares : filter.ComparesConstants) (columns : Columns) :
    compile columns filter.inlined = compile columns filter := by
  induction compares with
  | and _ _ leftInduction rightInduction =>
      rw [Filter.inlined, compile, compile, leftInduction, rightInduction]
  | or _ _ leftInduction rightInduction =>
      rw [Filter.inlined, compile, compile, leftInduction, rightInduction]
  | compare name operator given =>
      simp only [Filter.inlined, compile, Filter.constant?_inlined, given]

namespace Keyset

theorem inlined_join (connective : Filter → Filter → Filter)
    (respells : ∀ left right,
      (connective left right).inlined = connective left.inlined right.inlined)
    (earlier? : Option Filter) (filter : Filter) :
    (join connective earlier? filter).inlined =
      join connective (earlier?.map Filter.inlined) filter.inlined := by
  cases earlier? with
  | none => rfl
  | some earlier => exact respells earlier filter

theorem map_inlined_predicateFrom (directions : PropertyMap Direction)
    (fields : List (String × Value)) :
    ∀ (index : Nat) (equal found : Option Filter),
      (predicateFrom directions true index equal found fields).map
          Filter.inlined =
        predicateFrom directions false index (equal.map Filter.inlined)
          (found.map Filter.inlined) fields := by
  induction fields with
  | nil =>
      intro index equal found
      rfl
  | cons field rest induction =>
      obtain ⟨name, value⟩ := field
      intro index equal found
      have joined (operator : Comparison) : (join .and equal
          (.compare (.property name) operator
            (constant true index value))).inlined =
          join .and (equal.map Filter.inlined)
            (.compare (.property name) operator (constant false index value)) :=
        inlined_join .and (fun _ _ => rfl) equal _
      rw [predicateFrom, predicateFrom, induction, Option.map_some,
        Option.map_some, inlined_join .or fun _ _ => rfl, joined, joined]

theorem comparesConstants_predicate? {values : PropertyMap Value}
    {order : SortOrder} {parameterize : Bool} {predicate : Filter}
    (built : predicate? values order parameterize = some predicate) :
    predicate.ComparesConstants := by
  refine predicateFrom_induction .and .or values.entries ?_ 0 none none
    (by simp) (by simp) predicate built
  intro field _ index
  have given := constant?_constant parameterize index field.2
  exact ⟨.compare _ _ given, .compare _ _ given⟩

/-- The parameters of a filter that may be absent. -/
def parametersOf (filter? : Option Filter) : List (Nat × Value) :=
  (filter?.map Filter.parameters).getD []

theorem parameters_join (connective : Filter → Filter → Filter)
    (shows : ∀ left right, (connective left right).parameters =
      left.parameters ++ right.parameters)
    (earlier? : Option Filter) (filter : Filter) :
    (join connective earlier? filter).parameters =
      parametersOf earlier? ++ filter.parameters := by
  cases earlier? with
  | none => rfl
  | some earlier => exact shows earlier filter

/-- The loop numbers the fields that are left from an index on.  The parameters
that it carries along in equalities are among those it has found. -/
theorem mem_parametersOf_predicateFrom (directions : PropertyMap Direction)
    (fields : List (String × Value)) :
    ∀ (index : Nat) (equal found : Option Filter),
      parametersOf equal ⊆ parametersOf found →
      ∀ parameter, parameter ∈ parametersOf
          (predicateFrom directions true index equal found fields) ↔
        parameter ∈ parametersOf found ∨
          ∃ offset field, fields[offset]? = some field ∧
            parameter = (index + offset, field.2.unwrapEnum) := by
  induction fields with
  | nil =>
      intro index equal found _ parameter
      simp [predicateFrom]
  | cons field rest induction =>
      obtain ⟨name, value⟩ := field
      intro index equal found carried parameter
      have agrees (operator : Comparison) : (join .and equal
          (.compare (.property name) operator
            (constant true index value))).parameters =
          parametersOf equal ++ [(index, value.unwrapEnum)] :=
        parameters_join .and (fun _ _ => rfl) equal _
      have next (operator : Comparison) : parametersOf (some (join .or found
          (join .and equal (.compare (.property name) operator
            (constant true index value))))) =
          parametersOf found ++
            (parametersOf equal ++ [(index, value.unwrapEnum)]) :=
        (parameters_join .or (fun _ _ => rfl) found _).trans
          (congrArg _ (agrees operator))
      rw [predicateFrom, induction, next]
      · rw [List.mem_append, List.mem_append, List.mem_singleton]
        constructor
        · rintro ((inFound | inEqual | rfl) | ⟨offset, later, located, rfl⟩)
          · exact .inl inFound
          · exact .inl (carried inEqual)
          · exact .inr ⟨0, (name, value), rfl, rfl⟩
          · exact .inr ⟨offset + 1, later, located, by
              rw [Nat.add_right_comm, Nat.add_assoc]⟩
        · rintro (inFound | ⟨offset, later, located, rfl⟩)
          · exact .inl (.inl inFound)
          · cases offset with
            | zero =>
                cases located
                exact .inl (.inr (.inr rfl))
            | succ offset =>
                exact .inr ⟨offset, later, located, by
                  rw [Nat.add_right_comm, Nat.add_assoc]⟩
      · rw [next]
        change (join .and equal _).parameters ⊆ _
        rw [agrees]
        exact List.subset_append_right _ _

/-- The two spellings of a keyset predicate differ by their parameters alone.
The parameter of an index stands for the value of the field at that index, and
there is one for every field.  Both spellings evaluate alike on every entity,
and restrict every query on a table to the same condition with the same bound
values, or are refused for the same reason. -/
theorem parameterization_respells_predicate? (values : PropertyMap Value)
    (order : SortOrder) :
    (predicate? values order true).map Filter.inlined =
        predicate? values order false ∧
      (∀ index value,
        (index, value) ∈ parametersOf (predicate? values order true) ↔
          ∃ field, values.entries[index]? = some field ∧
            value = field.2.unwrapEnum) ∧
      (∀ actual, (predicate? values order true).map (·.evaluate actual) =
        (predicate? values order false).map (·.evaluate actual)) ∧
      ∀ query : Sql.TableQuery,
        applyTo query values order true = applyTo query values order false := by
  have respelled : (predicate? values order true).map Filter.inlined =
      predicate? values order false :=
    map_inlined_predicateFrom order.directions values.entries 0 none none
  refine ⟨respelled, ?_, ?_, ?_⟩
  · intro index value
    rw [predicate?, mem_parametersOf_predicateFrom _ _ 0 none none
      (List.Subset.refl _)]
    simp [parametersOf]
  · intro actual
    rw [← respelled, Option.map_map]
    cases built : predicate? values order true with
    | none => rfl
    | some predicate =>
        have compares := comparesConstants_predicate? built
        exact congrArg some (Filter.evaluate_inlined compares actual).symm
  · intro query
    unfold applyTo
    rw [← respelled]
    cases built : predicate? values order true with
    | none => rfl
    | some predicate =>
        have compares := comparesConstants_predicate? built
        simp only [Option.map_some, Queryable.applyFilter,
          Sql.TableQuery.restrict, Sql.compile_inlined compares]

end Keyset

end KeysetPaging
