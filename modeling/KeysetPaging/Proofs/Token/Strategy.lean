import KeysetPaging.Token.Strategy

/-!
# What tokens record

The default strategy records the properties of a static order and then the keys,
each name once.  Keys are declared properties, so none of them is left out.
-/

namespace KeysetPaging

namespace EntityType

theorem isSome_propertyType? {entity : EntityType} {name : String}
    (declared : name ∈ entity.properties) :
    (entity.propertyType? name).isSome = true := by
  obtain ⟨entry, member, same⟩ := List.mem_map.mp declared
  rw [propertyType?, PropertyMap.get?, Option.isSome_map, List.find?_isSome]
  exact ⟨entry, member, beq_iff_eq.mpr same⟩

theorem map_fst_keyProperties (entity : EntityType) :
    entity.keyProperties.map Prod.fst = entity.keys := by
  have declared := entity.keys_declared
  rw [keyProperties]
  generalize entity.keys = keys at declared ⊢
  induction keys with
  | nil => rfl
  | cons key keys induction =>
      have rest := induction fun other member =>
        declared other (List.mem_cons_of_mem key member)
      obtain ⟨type, found⟩ := Option.isSome_iff_exists.mp
        (isSome_propertyType? (declared key List.mem_cons_self))
      rw [List.filterMap_cons_some (by rw [found]; rfl), List.map_cons, rest]

end EntityType

namespace Strategy

theorem mem_distinct {name : String} {names : List String} :
    name ∈ distinct names ↔ name ∈ names := by
  induction names with
  | nil => rfl
  | cons first names induction =>
      by_cases same : name = first
      · simp [distinct, same]
      · simp [distinct, same, induction]

theorem nodup_distinct (names : List String) : (distinct names).Nodup := by
  induction names with
  | nil => exact List.nodup_nil
  | cons first names induction =>
      rw [distinct, List.nodup_cons]
      exact ⟨by simp, induction.filter _⟩

/-- The names that a token records: those of the order, then the keys. -/
def recordedNames (entity : EntityType) (order : SortOrder) : List String :=
  distinct (order.map SortTerm.name ++ entity.keys)

theorem recordedNames_ne_nil_iff {entity : EntityType} {order : SortOrder} :
    recordedNames entity order ≠ [] ↔ order ≠ [] ∨ entity.keys ≠ [] := by
  have sameMembers : recordedNames entity order = [] ↔
      order.map SortTerm.name ++ entity.keys = [] := by
    simp only [List.eq_nil_iff_forall_not_mem, recordedNames, mem_distinct]
  rw [ne_eq, sameMembers, List.append_eq_nil_iff, List.map_eq_nil_iff,
    Classical.not_and_iff_not_or_not]

/-- Whether an order keeps to declared properties decides whether there is
anything to record. -/
theorem recordedProperties?_eq_some_iff {entity : EntityType}
    {order? : Option SortOrder} {names : List String} :
    recordedProperties? entity order? = some names ↔
      (∀ term ∈ order?.getD [], term.isDynamic = false) ∧
        recordedNames entity (order?.getD []) = names := by
  simp only [recordedProperties?, EntityType.map_fst_keyProperties]
  by_cases dynamic : (order?.getD []).isDynamic = true
  · obtain ⟨term, member, isDynamic⟩ := List.any_eq_true.mp dynamic
    simp only [dynamic, if_true, reduceCtorEq, false_iff, not_and]
    intro isStatic
    rw [isStatic term member] at isDynamic
    cases isDynamic
  · have isStatic : ∀ term ∈ order?.getD [], term.isDynamic = false := by
      simpa [SortOrder.isDynamic] using dynamic
    rw [if_neg dynamic, Option.some.injEq, recordedNames]
    exact ⟨fun same => ⟨isStatic, same⟩, And.right⟩

theorem defaultToken_of_static {codec : Codec} {entity : Entity} {model : Model}
    {type : EntityType} {order : SortOrder}
    (resolved : model.entityType? entity.typeName = some type)
    (isStatic : ∀ term ∈ order, term.isDynamic = false) :
    defaultToken codec entity model (some order) =
      codec.encode entity (recordedNames type order) := by
  have recorded : recordedProperties? type (some order) =
      some (recordedNames type order) :=
    recordedProperties?_eq_some_iff.mpr ⟨isStatic, rfl⟩
  simp only [defaultToken, resolved, recorded]

theorem exists_of_defaultToken_ne_nil {codec : Codec} {entity : Entity}
    {model : Model} {order? : Option SortOrder}
    (written : defaultToken codec entity model order? ≠ []) :
    ∃ type, model.entityType? entity.typeName = some type ∧
      recordedNames type (order?.getD []) ≠ [] ∧
        defaultToken codec entity model order? =
          codec.encode entity (recordedNames type (order?.getD [])) := by
  unfold defaultToken at written ⊢
  cases resolved : model.entityType? entity.typeName with
  | none => simp [resolved] at written
  | some type =>
      cases recorded : recordedProperties? type order? with
      | none => simp [resolved, recorded] at written
      | some names =>
          obtain ⟨_, rfl⟩ := recordedProperties?_eq_some_iff.mp recorded
          simp only [resolved, recorded] at written ⊢
          refine ⟨type, rfl, ?_, rfl⟩
          intro none
          exact written (by rw [none]; rfl)

end Strategy

end KeysetPaging
