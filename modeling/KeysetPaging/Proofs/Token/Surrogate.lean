import KeysetPaging.Proofs.Decimal.Integer
import KeysetPaging.Proofs.Token.RoundTrip
import KeysetPaging.Proofs.Token.Strategy

/-!
# Surrogate tokens

The surrogate strategy writes a bare integer for some entities and the token
grammar for the others, and has to tell the two apart when it reads.  A token of
the grammar begins with a name and its delimiter, and the delimiter is no digit
and does not stand first, where a sign could stand.  So it reads as no integer,
even when an entity of the target type had no surrogate to write.
-/

namespace KeysetPaging

namespace Codec

theorem CanName.ne_empty {codec : Codec} {name : String}
    (nameable : codec.CanName name) : name ≠ "" := by
  rintro rfl
  cases nameable.visible

theorem int64?_encode (codec : Codec) (entity : Entity) {names : List String}
    (named : ∀ name ∈ names, name ≠ "") :
    Text.int64? (codec.encode entity names) = none := by
  cases names with
  | nil => rfl
  | cons name names =>
      have visible : name.toList ≠ [] := by
        rw [ne_eq, String.toList_eq_nil_iff]
        exact named name List.mem_cons_self
      have begins : ∃ rest, codec.encode entity (name :: names) =
          name.toList ++ codec.delimiters.property :: rest := by
        cases names with
        | nil => exact ⟨_, by simp [encode, fieldText]; rfl⟩
        | cons other names => exact ⟨_, by simp [encode, fieldText]; rfl⟩
      obtain ⟨rest, shape⟩ := begins
      rw [shape]
      exact Text.int64?_eq_none visible codec.valid.property_not_digit

end Codec

namespace Strategy

/-- The strategies at hand: the default one and, for a target type and its
property, the surrogate one. -/
def standard (target? : Option (String × String)) (codec : Codec) : Strategy :=
  match target? with
  | none => .default codec
  | some (fullName, property) => .surrogate fullName property codec

/-- An entity of the target type has a signed 64-bit integer as its surrogate. -/
structure IsSurrogate (target? : Option (String × String)) (entity : Entity)
    (model : Model) (property : String) (n : Int64) : Prop where
  of_target : ∃ type, model.resolve? entity.typeName = some type ∧
    target? = some (type.fullName, property)
  whole : ∃ number, entity.value property = .number number ∧
    number.toRat = n.toInt

theorem IsSurrogate.unique {target? : Option (String × String)}
    {entity : Entity} {model : Model} {property other : String} {n m : Int64}
    (first : IsSurrogate target? entity model property n)
    (second : IsSurrogate target? entity model other m) :
    property = other ∧ n = m := by
  obtain ⟨⟨type, _, target⟩, number, held, value⟩ := first
  obtain ⟨⟨type', _, target'⟩, number', held', value'⟩ := second
  have same : property = other := by
    rw [target] at target'
    exact (Prod.mk.inj (Option.some.inj target')).2
  subst same
  rw [held] at held'
  cases held'
  rw [value, Int.cast_inj, Int64.toInt_inj] at value'
  exact ⟨rfl, value'⟩

theorem surrogateOf?_eq_some_iff {entity : Entity} {property : String}
    {n : Int64} :
    surrogateOf? entity property = some n ↔
      ∃ number, entity.value property = .number number ∧
        number.toRat = n.toInt := by
  unfold surrogateOf?
  cases entity.value property with
  | number number =>
      simp only [Value.number.injEq, exists_eq_left']
      by_cases isInteger : number.isInteger = true
      · obtain ⟨m, value⟩ := Decimal.isInteger_iff.mp isInteger
        rw [if_pos isInteger, Decimal.truncate?_of_toRat_eq value,
          Text.int64OfInt?_eq_some_iff, value, Int.cast_inj, eq_comm]
      · have fraction : ¬ ∃ m : Int, number.toRat = m :=
          fun whole => isInteger (Decimal.isInteger_iff.mpr whole)
        rw [if_neg isInteger]
        simp only [reduceCtorEq, false_iff]
        exact fun value => fraction ⟨n.toInt, value⟩
  | _ => simp

theorem targets_eq_true_iff {model : Model} {typeName fullName : String} :
    targets model typeName fullName = true ↔
      ∃ type, model.resolve? typeName = some type ∧ type.fullName = fullName := by
  unfold targets
  cases model.resolve? typeName with
  | none => simp
  | some type => simp

/-- The element type of a context is the type of a full name. -/
def IsTarget (fullName : String) (context : TokenContext) : Prop :=
  ∃ elementType type, context.elementType? = some elementType ∧
    context.model.resolve? elementType = some type ∧ type.fullName = fullName

theorem readSurrogate?_of_isTarget {fullName property : String}
    {context : TokenContext} (isTarget : IsTarget fullName context)
    (token : List Char) :
    readSurrogate? fullName property token context =
      (Text.int64? token).map fun surrogate =>
        PropertyMap.empty.insert property (.ofInt64 surrogate) := by
  obtain ⟨elementType, type, bound, resolved, named⟩ := isTarget
  have targeted : targets context.model elementType fullName = true :=
    targets_eq_true_iff.mpr ⟨type, resolved, named⟩
  simp only [readSurrogate?, bound, targeted, if_true]

theorem readSurrogate?_integerText {fullName : String} (property : String)
    {context : TokenContext} (isTarget : IsTarget fullName context)
    (n : Int64) :
    readSurrogate? fullName property (Text.integerText n.toInt) context =
      some (PropertyMap.empty.insert property (.ofInt64 n)) := by
  rw [readSurrogate?_of_isTarget isTarget, Text.int64?_integerText,
    Option.map_some]

theorem readSurrogate?_of_not_isTarget {fullName property : String}
    {context : TokenContext} (other : ¬ IsTarget fullName context)
    (token : List Char) :
    readSurrogate? fullName property token context = none := by
  unfold readSurrogate?
  cases bound : context.elementType? with
  | none => rfl
  | some elementType =>
      refine if_neg fun targeted => other ?_
      obtain ⟨type, resolved, named⟩ := targets_eq_true_iff.mp targeted
      exact ⟨elementType, type, bound, resolved, named⟩

theorem targetSurrogate?_eq_some_iff {fullName property : String}
    {entity : Entity} {model : Model} {n : Int64} :
    targetSurrogate? fullName property entity model = some n ↔
      IsSurrogate (some (fullName, property)) entity model property n := by
  unfold targetSurrogate?
  constructor
  · intro surrogate
    split_ifs at surrogate with targeted
    obtain ⟨type, resolved, rfl⟩ := targets_eq_true_iff.mp targeted
    exact ⟨⟨type, resolved, rfl⟩, surrogateOf?_eq_some_iff.mp surrogate⟩
  · rintro ⟨⟨type, resolved, same⟩, whole⟩
    cases same
    rw [if_pos (targets_eq_true_iff.mpr ⟨type, resolved, rfl⟩)]
    exact surrogateOf?_eq_some_iff.mpr whole

variable {target? : Option (String × String)} {codec : Codec} {entity : Entity}
  {model : Model} {order? : Option SortOrder}

theorem token_of_isSurrogate {property : String} {n : Int64}
    (surrogate : IsSurrogate target? entity model property n) :
    (standard target? codec).token entity model order? =
      Text.integerText n.toInt := by
  obtain ⟨⟨type, _, rfl⟩, _⟩ := id surrogate
  have written := targetSurrogate?_eq_some_iff.mpr surrogate
  simp only [standard, Strategy.surrogate, surrogateToken, written]

theorem token_of_no_surrogate
    (absent : ∀ property n, ¬ IsSurrogate target? entity model property n) :
    (standard target? codec).token entity model order? =
      defaultToken codec entity model order? := by
  cases target? with
  | none => rfl
  | some target =>
      obtain ⟨fullName, property⟩ := target
      have unwritten : targetSurrogate? fullName property entity model = none :=
        Option.eq_none_iff_forall_ne_some.mpr fun n written =>
          absent property n (targetSurrogate?_eq_some_iff.mp written)
      simp only [standard, Strategy.surrogate, surrogateToken, unwritten]

theorem readOwn?_of_no_int64 {token : List Char}
    (noInteger : Text.int64? token = none) (context : TokenContext) :
    (standard target? codec).readOwn? token context = none := by
  cases target? with
  | none => rfl
  | some target =>
      by_cases isTarget : IsTarget target.1 context
      · exact (readSurrogate?_of_isTarget isTarget token).trans
          (by rw [noInteger]; rfl)
      · exact readSurrogate?_of_not_isTarget isTarget token

end Strategy

end KeysetPaging
