import KeysetPaging.PropertyMap
import KeysetPaging.Value

/-!
# Schema types

An entity type declares properties and names some of them as its key.  Declaring
a property again changes its type and keeps its place, and every key property
is declared: that invariant is part of the type, so no key can go missing.
Complex types have properties and no key, and enum types have members, which
may repeat a name or a number; the first one counts.
-/

namespace KeysetPaging

/-- The primitive types of properties. -/
inductive PrimitiveKind where
  | string
  | int64
  | float64
  | bool
  | guid
  | instant
  | date
  | time
  | decimal
deriving DecidableEq

namespace PrimitiveKind

/-- The name of a primitive type, as messages show it. -/
def name : PrimitiveKind → String
  | .string => "String"
  | .int64 => "I64"
  | .float64 => "F64"
  | .bool => "Bool"
  | .guid => "Uuid"
  | .instant => "DateTimeUtc"
  | .date => "Date"
  | .time => "Time"
  | .decimal => "Decimal"

instance : ToString PrimitiveKind := ⟨PrimitiveKind.name⟩

end PrimitiveKind

/-- The declared type of a property: a primitive type, or an enum type by its
full name. -/
inductive TypeRef where
  | primitive (kind : PrimitiveKind)
  | enum (fullName : String)
deriving DecidableEq

/-- The full name of a type. -/
def qualifiedName (space name : String) : String :=
  space ++ "." ++ name

/-- A type with a key. -/
structure EntityType where
  space : String
  name : String
  keys : List String
  properties : PropertyMap TypeRef
  isOpen : Bool
  keys_declared : ∀ key ∈ keys, key ∈ properties

namespace EntityType

def new (space name : String) : EntityType where
  space := space
  name := name
  keys := []
  properties := .empty
  isOpen := false
  keys_declared := by simp

theorem mem_properties_insert {properties : PropertyMap TypeRef} {key : String}
    (declared : key ∈ properties) (name : String) (type : TypeRef) :
    key ∈ properties.insert name type := by
  change key ∈ (properties.insert name type).names
  rw [PropertyMap.names_insert]
  split
  · exact declared
  · exact List.mem_append_left _ declared

theorem mem_properties_insert_self (properties : PropertyMap TypeRef)
    (name : String) (type : TypeRef) : name ∈ properties.insert name type := by
  change name ∈ (properties.insert name type).names
  rw [PropertyMap.names_insert]
  split
  · assumption
  · simp

/-- The type with one more property, or with another type for one it has. -/
def declare (entity : EntityType) (name : String) (type : TypeRef) :
    EntityType :=
  { entity with
    properties := entity.properties.insert name type
    keys_declared := fun key member =>
      mem_properties_insert (entity.keys_declared key member) name type }

def property (entity : EntityType) (name : String) (kind : PrimitiveKind) :
    EntityType :=
  entity.declare name (.primitive kind)

def enumProperty (entity : EntityType) (name fullName : String) : EntityType :=
  entity.declare name (.enum fullName)

/-- Declares a primitive property as the next part of the key. -/
def key (entity : EntityType) (name : String) (kind : PrimitiveKind) :
    EntityType :=
  let declared := entity.declare name (.primitive kind)
  { declared with
    keys := entity.keys ++ [name]
    keys_declared := by
      intro key member
      rcases List.mem_append.mp member with earlier | last
      · exact declared.keys_declared key earlier
      · rw [List.mem_singleton.mp last]
        exact mem_properties_insert_self entity.properties name _ }

/-- Allows properties beyond the declared ones. -/
def opened (entity : EntityType) : EntityType :=
  { entity with isOpen := true }

def fullName (entity : EntityType) : String :=
  qualifiedName entity.space entity.name

def propertyType? (entity : EntityType) (name : String) : Option TypeRef :=
  entity.properties.get? name

def declares (entity : EntityType) (name : String) : Bool :=
  (entity.propertyType? name).isSome

/-- The key properties with their types, in key order. -/
def keyProperties (entity : EntityType) : List (String × TypeRef) :=
  entity.keys.filterMap fun key =>
    (entity.propertyType? key).map fun type => (key, type)

end EntityType

/-- A type with properties and no key. -/
structure ComplexType where
  space : String
  name : String
  properties : List (String × TypeRef)

namespace ComplexType

def fullName (complex : ComplexType) : String :=
  qualifiedName complex.space complex.name

/-- The type of the first property of a name. -/
def propertyType? (complex : ComplexType) (name : String) : Option TypeRef :=
  (complex.properties.find? (·.1 == name)).map Prod.snd

end ComplexType

/-- A type with named integers as its members. -/
structure EnumType where
  space : String
  name : String
  members : List (String × Int64)

namespace EnumType

def fullName (enum : EnumType) : String :=
  qualifiedName enum.space enum.name

def memberNamed? (enum : EnumType) (name : String) : Option (String × Int64) :=
  enum.members.find? (·.1 == name)

def memberNumbered? (enum : EnumType) (number : Int64) :
    Option (String × Int64) :=
  enum.members.find? (·.2 == number)

end EnumType

end KeysetPaging
