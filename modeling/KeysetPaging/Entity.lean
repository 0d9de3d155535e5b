import KeysetPaging.PropertyMap
import KeysetPaging.Value

/-!
# Entities

The last entity of a page reaches token generation in one of two shapes: a
structured object, which is a bag of properties that names its own type, or a
typed record, which answers for the properties it has and goes by a runtime
type name.  Either way an absent property reads as null.
-/

namespace KeysetPaging

class Record (ρ : Type) where
  /-- The runtime name of the type of records. -/
  typeName : String
  /-- The runtime name that one record reports. -/
  reportedName : ρ → String := fun _ => typeName
  /-- The value of a property, if the record has it. -/
  property? : ρ → String → Option Value

namespace Record

/-- The value of a property, null when absent. -/
def value {ρ : Type} [Record ρ] (record : ρ) (name : String) : Value :=
  (property? record name).getD .null

end Record

/-- An entity of a page. -/
inductive Entity where
  | structured (typeName : String) (properties : PropertyMap Value)
  | typed (runtimeName : String) (property? : String → Option Value)

namespace Entity

def ofRecord {ρ : Type} [Record ρ] (record : ρ) : Entity :=
  .typed (Record.reportedName record) (Record.property? record)

/-- The name by which a model knows the type of the entity. -/
def typeName : Entity → String
  | .structured typeName _ => typeName
  | .typed runtimeName _ => runtimeName

/-- The value of a property, if the entity has it. -/
def property? : Entity → String → Option Value
  | .structured _ properties => properties.get?
  | .typed _ property? => property?

/-- The value of a property, null when absent. -/
def value (entity : Entity) (name : String) : Value :=
  (entity.property? name).getD .null

end Entity

end KeysetPaging
