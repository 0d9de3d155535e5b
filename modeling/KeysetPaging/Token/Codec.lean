import KeysetPaging.Entity
import KeysetPaging.Literal.Reading
import KeysetPaging.Text.Cut

/-!
# The token codec

A token is a list of fields, each the name of a property and the literal of its
value.  The literal of an enum member stands after a tag, since reading it needs
the declared type of the property; every other literal is read by its shape.

Nothing is escaped.  Decoding passes over malformed fields (those without a
literal, or with a blank name or literal) and fails at the first literal that
cannot be read.
-/

namespace KeysetPaging

/-- The model and the element type that a token is read against. -/
structure TokenContext where
  model : Model
  elementType? : Option String

/-- Valid delimiters, with which tokens are written and read. -/
structure Codec where
  delimiters : Delimiters
  valid : delimiters.Valid
deriving DecidableEq

namespace Codec

def default : Codec := ⟨{}, Delimiters.valid_default⟩

instance : Inhabited Codec := ⟨default⟩

/-- The codec with the given delimiters, if they are valid. -/
def ofDelimiters (delimiters : Delimiters) : Except Error Codec :=
  match checked : delimiters.check with
  | .ok () => .ok ⟨delimiters, checked⟩
  | .error fault => .error (.invalidDelimiters fault)

/-- The tag before the literal of an enum member. -/
def enumTag : List Char := "'enumType'".toList

/-- The literal of a value as tokens write it. -/
def literal : Value → List Char
  | .enum value => enumTag ++ Literal.spelling (.enum value)
  | value => Literal.spelling value

def fieldText (codec : Codec) (name : String) (value : Value) : List Char :=
  name.toList ++ codec.delimiters.property :: literal value

/-- The token that records properties of an entity. -/
def encode (codec : Codec) (entity : Entity) (properties : List String) :
    List Char :=
  [codec.delimiters.field].intercalate
    (properties.map fun name => codec.fieldText name (entity.value name))

/-- One field of a token, as it is found. -/
inductive Field where
  /-- A piece without a property delimiter. -/
  | unvalued (piece : List Char)
  /-- A piece with a blank name or a blank literal. -/
  | blank (piece : List Char)
  /-- A name and a literal. -/
  | usable (name literal : List Char)
deriving DecidableEq

/-- A piece of a token cut at its first property delimiter. -/
def readField (codec : Codec) (piece : List Char) : Field :=
  match Text.cutAt codec.delimiters.property piece with
  | (_, none) => .unvalued piece
  | (name, some literal) =>
      if literal.all Text.isBlank || name.all Text.isBlank then .blank piece
      else .usable name literal

def fields (codec : Codec) (token : List Char) : List Field :=
  (token.splitOn codec.delimiters.field).map codec.readField

/-- The value of a literal after the enum tag.  The element type must declare
the property with an enum type. -/
def readTagged (model : Model) (elementType property : String)
    (literal : List Char) : Except Error Value :=
  match model.propertyType? elementType property with
  | none => .error (.unknownProperty elementType property)
  | some (.primitive _) => .error (.notAnEnum property)
  | some (.enum fullName) => Literal.parseTyped model (.enum fullName) literal

def readValue (model : Model) (elementType property : String)
    (literal : List Char) : Except Error Value :=
  match enumTag.isPrefixOf? literal with
  | some tagged => readTagged model elementType property tagged
  | none => Literal.parse literal

/-- The values of fields, added to those already read. -/
def readFields (model : Model) (elementType : String) :
    PropertyMap Value → List Field → Except Error (PropertyMap Value)
  | values, [] => .ok values
  | values, .usable name literal :: rest => do
      let property := String.ofList name
      let value ← readValue model elementType property literal
      readFields model elementType (values.insert property value) rest
  | values, _ :: rest => readFields model elementType values rest

def decode (codec : Codec) (token : List Char) (context : TokenContext) :
    Except Error (PropertyMap Value) :=
  match context.elementType? with
  | none => .error .contextUnbound
  | some elementType =>
      readFields context.model elementType .empty (codec.fields token)

end Codec

end KeysetPaging
