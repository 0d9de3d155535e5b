import KeysetPaging.Schema.Types

/-!
# Models

A model holds types by their full names, and binds runtime type names to them.
Both are consulted newest first, so a later type or binding of the same name
hides an earlier one.  A name that is not bound is taken as a full name itself.
-/

namespace KeysetPaging

inductive SchemaType where
  | entity (type : EntityType)
  | complex (type : ComplexType)
  | enum (type : EnumType)

namespace SchemaType

def fullName : SchemaType → String
  | .entity type => type.fullName
  | .complex type => type.fullName
  | .enum type => type.fullName

def asEntity? : SchemaType → Option EntityType
  | .entity type => some type
  | _ => none

def asEnum? : SchemaType → Option EnumType
  | .enum type => some type
  | _ => none

theorem asEntity?_eq_some_iff {type : SchemaType} {entity : EntityType} :
    type.asEntity? = some entity ↔ type = .entity entity := by
  cases type with
  | entity other => simp [asEntity?]
  | complex other => simp [asEntity?]
  | enum other => simp [asEntity?]

theorem asEnum?_eq_some_iff {type : SchemaType} {enum : EnumType} :
    type.asEnum? = some enum ↔ type = .enum enum := by
  cases type with
  | entity other => simp [asEnum?]
  | complex other => simp [asEnum?]
  | enum other => simp [asEnum?]

/-- The type of a property.  Enum types have none. -/
def propertyType? (type : SchemaType) (name : String) : Option TypeRef :=
  match type with
  | .entity type => type.propertyType? name
  | .complex type => type.propertyType? name
  | .enum _ => none

end SchemaType

/-- The types of a service and the runtime names bound to them, newest first. -/
structure Model where
  types : List SchemaType
  bindings : List (String × String)

namespace Model

def empty : Model := ⟨[], []⟩

instance : Inhabited Model := ⟨empty⟩

def add (model : Model) (type : SchemaType) : Model :=
  { model with types := type :: model.types }

/-- The model with one more runtime name bound to a type. -/
def bind (model : Model) (runtimeName fullName : String) : Model :=
  { model with bindings := (runtimeName, fullName) :: model.bindings }

def typeNamed? (model : Model) (fullName : String) : Option SchemaType :=
  model.types.find? (·.fullName == fullName)

/-- The full name a type name stands for. -/
def boundName (model : Model) (typeName : String) : String :=
  ((model.bindings.find? (·.1 == typeName)).map Prod.snd).getD typeName

def resolve? (model : Model) (typeName : String) : Option SchemaType :=
  model.typeNamed? (model.boundName typeName)

def entityType? (model : Model) (typeName : String) : Option EntityType :=
  (model.resolve? typeName).bind SchemaType.asEntity?

theorem entityType?_eq_some_iff {model : Model} {typeName : String}
    {type : EntityType} :
    model.entityType? typeName = some type ↔
      model.resolve? typeName = some (.entity type) := by
  simp only [entityType?, Option.bind_eq_some_iff,
    SchemaType.asEntity?_eq_some_iff, exists_eq_right]

def propertyType? (model : Model) (typeName property : String) :
    Option TypeRef :=
  (model.resolve? typeName).bind (·.propertyType? property)

/-- The enum type of a full name.  Bindings do not apply. -/
def enumType? (model : Model) (fullName : String) : Option EnumType :=
  (model.typeNamed? fullName).bind SchemaType.asEnum?

theorem enumType?_eq_some_iff {model : Model} {fullName : String}
    {enum : EnumType} :
    model.enumType? fullName = some enum ↔
      model.typeNamed? fullName = some (.enum enum) := by
  simp only [enumType?, Option.bind_eq_some_iff,
    SchemaType.asEnum?_eq_some_iff, exists_eq_right]

theorem fullName_of_enumType? {model : Model} {fullName : String}
    {enum : EnumType} (declared : model.enumType? fullName = some enum) :
    enum.fullName = fullName := by
  have named : model.types.find? (·.fullName == fullName) =
      some (.enum enum) := enumType?_eq_some_iff.mp declared
  have same := List.find?_some named
  exact beq_iff_eq.mp same

end Model

end KeysetPaging
