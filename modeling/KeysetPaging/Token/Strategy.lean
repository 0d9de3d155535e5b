import KeysetPaging.Event
import KeysetPaging.Token.Codec

/-!
# Token strategies

A strategy decides which properties of the last entity a token records and how
the token looks.  The default records the properties of the sort order and then
the key, so that the token singles out one entity.  The surrogate strategy
writes a bare integer for the entities of one type and leaves all others to the
default.

A strategy with tokens of its own shape reads them back itself; one that writes
the token grammar reports its delimiters, so that tokens are never read with
others.
-/

namespace KeysetPaging

structure Strategy where
  /-- The token of the page that ends at an entity, empty if the page cannot be
  resumed. -/
  token : Entity → Model → Option SortOrder → List Char
  /-- The values of a token of the strategy's own shape. -/
  readOwn? : List Char → TokenContext → Option (PropertyMap Value) :=
    fun _ _ => none
  /-- The delimiters of the token grammar, if the strategy writes it. -/
  delimiters? : Option Delimiters := none
  tokenEvents : Entity → Model → Option SortOrder → List Event :=
    fun _ _ _ => []

namespace Strategy

/-- The names in order of first occurrence, each once. -/
def distinct : List String → List String
  | [] => []
  | name :: rest => name :: (distinct rest).filter (· ≠ name)

/-- The properties a token records: those of the order, then the key.  There
are none to record when the order sorts by a dynamic property. -/
def recordedProperties? (entity : EntityType) (order? : Option SortOrder) :
    Option (List String) :=
  let order : SortOrder := order?.getD []
  if order.isDynamic then none
  else
    some (distinct (order.map SortTerm.name ++
      entity.keyProperties.map Prod.fst))

def defaultToken (codec : Codec) (entity : Entity) (model : Model)
    (order? : Option SortOrder) : List Char :=
  match model.entityType? entity.typeName with
  | none => []
  | some type =>
      match recordedProperties? type order? with
      | none => []
      | some properties => codec.encode entity properties

/-- What may be logged when the default token of an entity is written. -/
def defaultEvents (entity : Entity) (model : Model)
    (order? : Option SortOrder) : List Event :=
  match model.entityType? entity.typeName with
  | none =>
      [{ level := .debug
         message := "No entity type for last entity; skip token not generated"
         fields := [Event.textField "type_name" entity.typeName.toList] }]
  | some type =>
      match recordedProperties? type order? with
      | none =>
          [{ level := .debug
             message :=
               "Ordering on a dynamic property; skip token not generated"
             fields := [Event.textField "entity" type.fullName.toList] }]
      | some _ => []

def default (codec : Codec) : Strategy where
  token := defaultToken codec
  delimiters? := some codec.delimiters
  tokenEvents := defaultEvents

/-- Whether a type name resolves to the type of a full name. -/
def targets (model : Model) (typeName fullName : String) : Bool :=
  match model.resolve? typeName with
  | some type => type.fullName == fullName
  | none => false

/-- The integer that a property of an entity holds. -/
def surrogateOf? (entity : Entity) (property : String) : Option Int64 :=
  match entity.value property with
  | .number value => if value.isInteger then value.truncate? else none
  | _ => none

/-- The surrogate of an entity of the target type. -/
def targetSurrogate? (fullName property : String) (entity : Entity)
    (model : Model) : Option Int64 :=
  if targets model entity.typeName fullName then surrogateOf? entity property
  else none

/-- The token of an entity under the surrogate strategy. -/
def surrogateToken (fullName property : String) (fallback : Codec)
    (entity : Entity) (model : Model) (order? : Option SortOrder) : List Char :=
  match targetSurrogate? fullName property entity model with
  | some surrogate => Text.integerText surrogate.toInt
  | none => defaultToken fallback entity model order?

/-- What may be logged when a token is written under the surrogate strategy. -/
def surrogateEvents (fullName property : String) (entity : Entity)
    (model : Model) (order? : Option SortOrder) : List Event :=
  match targetSurrogate? fullName property entity model with
  | some _ => []
  | none =>
      let missing : Event :=
        { level := .debug
          message :=
            "Surrogate key missing or not an integer; using default skip token"
          fields := [Event.textField "property" property.toList] }
      (if targets model entity.typeName fullName then [missing] else []) ++
        defaultEvents entity model order?

/-- The value of a surrogate token: a single integer, read for the target type
only. -/
def readSurrogate? (fullName property : String) (token : List Char)
    (context : TokenContext) : Option (PropertyMap Value) :=
  match context.elementType? with
  | none => none
  | some elementType =>
      if targets context.model elementType fullName then
        (Text.int64? token).map fun surrogate =>
          PropertyMap.empty.insert property (Value.ofInt64 surrogate)
      else none

/-- The strategy that records the integer property of one entity type alone,
and other types by default. -/
def surrogate (fullName property : String) (fallback : Codec) : Strategy where
  token := surrogateToken fullName property fallback
  readOwn? := readSurrogate? fullName property
  delimiters? := some fallback.delimiters
  tokenEvents := surrogateEvents fullName property

end Strategy

end KeysetPaging
