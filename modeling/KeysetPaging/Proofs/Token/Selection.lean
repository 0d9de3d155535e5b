import KeysetPaging.Proofs.Schema.Declarations

/-!
# What a token singles out

A token records the properties of the sort order and then the keys, each name once
and in the place where it comes first.  Since a key is never lost from its type, no
key is missing from the token: entities that are alike in what the token records
are alike in every key.  Only an order that sorts by a dynamic property leaves
nothing to record.
-/

namespace KeysetPaging

namespace Strategy

variable {entity : EntityType} {order? : Option SortOrder}
  {names : List String}

theorem recordedProperties?_eq_none_iff :
    recordedProperties? entity order? = none ↔
      ∃ term ∈ order?.getD [], term.isDynamic = true := by
  constructor
  · intro nothing
    by_contra isStatic
    have recorded : recordedProperties? entity order? =
        some (recordedNames entity (order?.getD [])) := by
      refine recordedProperties?_eq_some_iff.mpr ⟨?_, rfl⟩
      intro term member
      exact Bool.eq_false_iff.mpr fun dynamic =>
        isStatic ⟨term, member, dynamic⟩
    rw [nothing] at recorded
    cases recorded
  · rintro ⟨term, member, dynamic⟩
    cases recorded : recordedProperties? entity order? with
    | none => rfl
    | some names =>
        have isStatic := (recordedProperties?_eq_some_iff.mp recorded).1
        rw [isStatic term member] at dynamic
        cases dynamic

theorem listsFirst_of_recordedProperties?
    (recorded : recordedProperties? entity order? = some names) :
    ListsFirst names
      ((order?.getD []).map SortTerm.name ++ entity.keys) := by
  obtain ⟨_, rfl⟩ := recordedProperties?_eq_some_iff.mp recorded
  exact listsFirst_distinct _

theorem mem_of_mem_keyProperties
    (recorded : recordedProperties? entity order? = some names)
    {definition : String × TypeRef}
    (member : definition ∈ entity.keyProperties) : definition.1 ∈ names := by
  have isKey : definition.1 ∈ entity.keys := by
    rw [← EntityType.map_fst_keyProperties]
    exact List.mem_map_of_mem member
  exact ((listsFirst_of_recordedProperties? recorded).mem_iff _).mpr
    (List.mem_append_right _ isKey)

/-- What declarations make of an entity type, and what a token records of its
entities.  The properties stand in the order of their first declarations, with the
types of their last ones, and the key has one definition for each declaration of a
key.  A token records the names of the order and of the key, each once and in the
order of their first occurrence, unless a term of the order is dynamic.  So
entities that are alike in what is recorded are alike in the key. -/
theorem declared_and_recorded_in_order (space name : String)
    (declarations : List Declaration) (order? : Option SortOrder) :
    let entity := EntityType.declaring space name declarations
    let keys := declarations.filterMap Declaration.keyName?
    ListsFirst entity.properties.names
        (declarations.filterMap Declaration.name?) ∧
      (∀ (property : String) (type : TypeRef),
        entity.propertyType? property = some type ↔
          ∃ earlier declaration later,
            declarations = earlier ++ declaration :: later ∧
              declaration.declared? = some (property, type) ∧
                ∀ other ∈ later, other.name? ≠ some property) ∧
      List.Forall₂ (fun key definition => definition.1 = key ∧
          entity.propertyType? key = some definition.2)
        keys entity.keyProperties ∧
      (recordedProperties? entity order? = none ↔
        ∃ term ∈ order?.getD [], term.isDynamic = true) ∧
      ∀ names, recordedProperties? entity order? = some names →
        ListsFirst names ((order?.getD []).map SortTerm.name ++ keys) ∧
          ∀ (alike : Value → Value → Prop) (first second : Entity),
            (∀ name ∈ names, alike (first.value name) (second.value name)) →
            ∀ definition ∈ entity.keyProperties,
              alike (first.value definition.1) (second.value definition.1) := by
  intro entity keys
  have declared : entity.IsDeclaredBy declarations :=
    EntityType.isDeclaredBy_declaring space name declarations
  have sameKeys : entity.keys = keys := declared.keys
  refine ⟨declared.names, ?_, ?_, recordedProperties?_eq_none_iff, ?_⟩
  · intro property type
    exact declared.propertyType?_eq_some_iff
  · rw [← sameKeys]
    exact entity.forall₂_keyProperties
  · intro names recorded
    constructor
    · rw [← sameKeys]
      exact listsFirst_of_recordedProperties? recorded
    · intro alike first second agree definition member
      exact agree definition.1 (mem_of_mem_keyProperties recorded member)

/-- Declarations of a member of a club, whose identifier is declared a key twice
and whose rank is declared twice. -/
def memberDeclarations : List Declaration :=
  [.key "id" .int64, .property "rank" .int64, .key "club" .guid,
    .enumProperty "rank" "Club.Rank", .opened, .key "id" .string]

/-- The rank of a member counts as the number that it stands for, and members
without a club are alike in it. -/
theorem declared_and_recorded_in_order_memberDeclarations :
    let entity := EntityType.declaring "Club" "Member" memberDeclarations
    let order : SortOrder :=
      [⟨"rank", .descending, false⟩, ⟨"club", .ascending, false⟩,
        ⟨"rank", .ascending, false⟩]
    let first : Entity := .structured "Club.Member" (.ofList
      [("id", .string "a7"), ("rank", .enum ⟨"Club.Rank", "Gold", 2⟩)])
    let second : Entity := .structured "Club.Member" (.ofList
      [("rank", .ofInt64 2), ("name", .string "Ada"), ("id", .string "a7")])
    recordedProperties? entity (some order) = some ["rank", "club", "id"] ∧
      entity.properties.names = ["id", "rank", "club"] ∧
      entity.propertyType? "rank" = some (.enum "Club.Rank") ∧
      entity.keyProperties = [("id", .primitive .string),
        ("club", .primitive .guid), ("id", .primitive .string)] ∧
      ∀ definition ∈ entity.keyProperties,
        (first.value definition.1).equals (second.value definition.1) =
          true := by
  intro entity order first second
  obtain ⟨_, types, _, _, records⟩ := declared_and_recorded_in_order "Club"
    "Member" memberDeclarations (some order)
  have recorded :
      recordedProperties? entity (some order) = some ["rank", "club", "id"] := by
    decide
  refine ⟨recorded, by decide, ?_, by decide, ?_⟩
  · refine (types "rank" (.enum "Club.Rank")).mpr
      ⟨memberDeclarations.take 3, .enumProperty "rank" "Club.Rank",
        memberDeclarations.drop 4, rfl, rfl, by decide⟩
  · refine (records _ recorded).2 (fun left right => left.equals right = true)
      first second ?_
    decide

end Strategy

end KeysetPaging
