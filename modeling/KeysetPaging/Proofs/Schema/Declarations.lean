import KeysetPaging.Proofs.FirstOccurrence
import Mathlib.Data.List.Forall2

/-!
# Declared entity types

An entity type is built by declarations one after another, which may declare a
name again, with another type or as a key once more.  A property keeps the place of
its first declaration and takes the type of its last one, and a key keeps every
place in which it was declared.  No key is lost on the way: each of them is a
property, whatever type it has in the end.

What one declaration does is said once, and the laws of a type follow by induction
on the declarations, from the right since later ones add to what earlier ones
built.
-/

namespace KeysetPaging

/-- A step in the building of an entity type. -/
inductive Declaration where
  | key (name : String) (kind : PrimitiveKind)
  | property (name : String) (kind : PrimitiveKind)
  | enumProperty (name fullName : String)
  | opened
deriving DecidableEq

namespace Declaration

def apply (entity : EntityType) : Declaration → EntityType
  | .key name kind => entity.key name kind
  | .property name kind => entity.property name kind
  | .enumProperty name fullName => entity.enumProperty name fullName
  | .opened => entity.opened

/-- The property that is declared, with its type. -/
def declared? : Declaration → Option (String × TypeRef)
  | .key name kind => some (name, .primitive kind)
  | .property name kind => some (name, .primitive kind)
  | .enumProperty name fullName => some (name, .enum fullName)
  | .opened => none

def name? (declaration : Declaration) : Option String :=
  declaration.declared?.map Prod.fst

/-- The type that is given to a property. -/
def type? (declaration : Declaration) (name : String) : Option TypeRef :=
  declaration.declared?.bind fun declared =>
    if declared.1 = name then some declared.2 else none

/-- The name that becomes the next part of the key. -/
def keyName? : Declaration → Option String
  | .key name _ => some name
  | _ => none

variable {declaration : Declaration} {name : String} {type : TypeRef}

theorem type?_eq_some_iff :
    declaration.type? name = some type ↔
      declaration.declared? = some (name, type) := by
  rw [type?, Option.bind_eq_some_iff]
  constructor
  · rintro ⟨⟨declared, given⟩, found, same⟩
    by_cases equal : declared = name
    · obtain rfl : given = type := by simpa [equal] using same
      rw [found, equal]
    · simp [equal] at same
  · intro found
    exact ⟨(name, type), found, if_pos rfl⟩

theorem type?_eq_none_iff :
    declaration.type? name = none ↔ declaration.name? ≠ some name := by
  unfold type? name?
  cases declaration.declared? with
  | none => simp
  | some declared => simp

theorem properties_apply_of_some (entity : EntityType)
    (declared : declaration.declared? = some (name, type)) :
    (declaration.apply entity).properties =
      entity.properties.insert name type := by
  cases declaration with
  | opened => cases declared
  | _ =>
      cases declared
      rfl

theorem properties_apply_of_none (entity : EntityType)
    (undeclared : declaration.declared? = none) :
    (declaration.apply entity).properties = entity.properties := by
  cases declaration with
  | opened => rfl
  | _ => cases undeclared

theorem listsFirst_apply {entity : EntityType} {source : List String}
    (lists : ListsFirst entity.properties.names source)
    (declaration : Declaration) :
    ListsFirst (declaration.apply entity).properties.names
      (source ++ declaration.name?.toList) := by
  unfold name?
  cases found : declaration.declared? with
  | none =>
      rw [properties_apply_of_none entity found, Option.map_none,
        Option.toList_none, List.append_nil]
      exact lists
  | some declared =>
      rw [properties_apply_of_some entity found, Option.map_some,
        Option.toList_some]
      exact PropertyMap.listsFirst_insert lists declared.1 declared.2

theorem propertyType?_apply (entity : EntityType) (declaration : Declaration)
    (name : String) :
    (declaration.apply entity).propertyType? name =
      (declaration.type? name).or (entity.propertyType? name) := by
  unfold EntityType.propertyType? type?
  cases found : declaration.declared? with
  | none => rw [properties_apply_of_none entity found]; rfl
  | some declared =>
      rw [properties_apply_of_some entity found, PropertyMap.get?_insert,
        Option.bind_some]
      by_cases same : declared.1 = name
      · rw [if_pos same, if_pos same, Option.some_or]
      · rw [if_neg same, if_neg same, Option.none_or]

theorem keys_apply (entity : EntityType) (declaration : Declaration) :
    (declaration.apply entity).keys =
      entity.keys ++ declaration.keyName?.toList := by
  cases declaration with
  | key name kind => rfl
  | _ => exact (List.append_nil entity.keys).symm

theorem filterMap_append_singleton {α : Type} (part? : Declaration → Option α)
    (declarations : List Declaration) (declaration : Declaration) :
    (declarations ++ [declaration]).filterMap part? =
      declarations.filterMap part? ++ (part? declaration).toList := by
  rw [List.filterMap_append]
  cases found : part? declaration with
  | none => rw [List.filterMap_cons_none found]; rfl
  | some part => rw [List.filterMap_cons_some found]; rfl

end Declaration

namespace EntityType

/-- The type that declarations build from a new one. -/
def declaring (space name : String) (declarations : List Declaration) :
    EntityType :=
  declarations.foldl Declaration.apply (.new space name)

/-- What declarations leave of themselves in an entity type. -/
structure IsDeclaredBy (entity : EntityType)
    (declarations : List Declaration) : Prop where
  names : ListsFirst entity.properties.names
    (declarations.filterMap Declaration.name?)
  types : ∀ name, entity.propertyType? name =
    declarations.reverse.findSome? (·.type? name)
  keys : entity.keys = declarations.filterMap Declaration.keyName?

variable {entity : EntityType} {declarations : List Declaration}

theorem IsDeclaredBy.apply (declared : entity.IsDeclaredBy declarations)
    (declaration : Declaration) :
    (declaration.apply entity).IsDeclaredBy
      (declarations ++ [declaration]) where
  names := by
    rw [Declaration.filterMap_append_singleton]
    exact Declaration.listsFirst_apply declared.names declaration
  types name := by
    rw [Declaration.propertyType?_apply, declared.types, List.reverse_append,
      List.findSome?_append, List.reverse_singleton, List.findSome?_singleton]
  keys := by
    rw [Declaration.keys_apply, declared.keys,
      Declaration.filterMap_append_singleton]

theorem isDeclaredBy_declaring (space name : String)
    (declarations : List Declaration) :
    (declaring space name declarations).IsDeclaredBy declarations := by
  induction declarations using List.reverseRecOn with
  | nil => exact ⟨.nil, fun _ => rfl, rfl⟩
  | append_singleton declarations declaration induction =>
      rw [declaring, List.foldl_append]
      exact induction.apply declaration

theorem IsDeclaredBy.propertyType?_eq_some_iff
    (declared : entity.IsDeclaredBy declarations) {name : String}
    {type : TypeRef} :
    entity.propertyType? name = some type ↔
      ∃ earlier declaration later,
        declarations = earlier ++ declaration :: later ∧
          declaration.declared? = some (name, type) ∧
            ∀ other ∈ later, other.name? ≠ some name := by
  rw [declared.types, List.findSome?_eq_some_iff]
  constructor
  · rintro ⟨later, declaration, earlier, reversed, gives, last⟩
    refine ⟨earlier.reverse, declaration, later.reverse, ?_,
      Declaration.type?_eq_some_iff.mp gives, ?_⟩
    · rw [← List.reverse_reverse declarations, reversed]
      simp
    · intro other member
      exact Declaration.type?_eq_none_iff.mp
        (last other (List.mem_reverse.mp member))
  · rintro ⟨earlier, declaration, later, rfl, gives, last⟩
    refine ⟨later.reverse, declaration, earlier.reverse, by simp,
      Declaration.type?_eq_some_iff.mpr gives, ?_⟩
    intro other member
    exact Declaration.type?_eq_none_iff.mpr
      (last other (List.mem_reverse.mp member))

/-- Each key, as often as it stands in the key, has one definition in its place,
with the type that the property has. -/
theorem forall₂_keyProperties (entity : EntityType) :
    List.Forall₂ (fun key definition =>
        definition.1 = key ∧ entity.propertyType? key = some definition.2)
      entity.keys entity.keyProperties := by
  rw [← map_fst_keyProperties, List.forall₂_map_left_iff, List.forall₂_same]
  intro definition member
  obtain ⟨key, _, found⟩ := List.mem_filterMap.mp member
  obtain ⟨type, typed, rfl⟩ := Option.map_eq_some_iff.mp found
  exact ⟨rfl, typed⟩

end EntityType

end KeysetPaging
