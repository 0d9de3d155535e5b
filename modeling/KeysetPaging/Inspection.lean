import KeysetPaging.Handler
import KeysetPaging.Text.Escaped

/-!
# Inspection

The text that diagnostics show for an entity, a value or a handler.  It names
the parts of a thing and their representation: where a literal gives the digits
of a number, its inspection gives the sign, the scale and the 64-bit limbs of
its coefficient.
-/

namespace KeysetPaging

namespace Inspection

/-- Parts with a comma between them. -/
def listed (parts : List (List Char)) : List Char :=
  [',', ' '].intercalate parts

/-- A named thing with one unnamed part. -/
def tagged (name : String) (part : List Char) : List Char :=
  name.toList ++ '(' :: (part ++ [')'])

/-- A part after its name. -/
def field (name : String) (part : List Char) : List Char :=
  name.toList ++ ':' :: ' ' :: part

/-- A named thing with named parts. -/
def fielded (name : String) (fields : List (List Char)) : List Char :=
  name.toList ++ [' ', '\x7b', ' '] ++ listed fields ++ [' ', '\x7d']

def text (value : String) : List Char :=
  Text.escapedText value.toList

/-- The limbs of a natural number in base `2 ^ 64`, the least significant
first.  The first argument bounds their count. -/
def limbs : Nat → Nat → List Nat
  | 0, _ => []
  | bound + 1, n =>
      if n = 0 then []
      else n % Nat.pow 2 64 :: limbs bound (n / Nat.pow 2 64)

def signName (n : Int) : String :=
  if n < 0 then "Minus" else if n = 0 then "NoSign" else "Plus"

def number (value : Decimal) : List Char :=
  let magnitude := value.coefficient.natAbs
  tagged "BigDecimal" <| listed
    [ "sign=".toList ++ (signName value.coefficient).toList,
      "scale=".toList ++ Text.integerText value.scale.toInt,
      "digits=[".toList ++
        listed ((limbs (magnitude.log2 / 64 + 1) magnitude).map Text.digits) ++
        [']'] ]

def value : Value → List Char
  | .null => "Null".toList
  | .bool b => tagged "Bool" (Literal.boolText b)
  | .number n => tagged "Number" (number n)
  | .guid g => tagged "Uuid" g.spelling
  | .instant i => tagged "DateTime" i.spelling
  | .date d => tagged "Date" d.spelling
  | .time t => tagged "Time" t.spelling
  | .string s => tagged "String" (text s)
  | .enum e =>
      tagged "Enum" <| fielded "EnumValue"
        [ field "type_name" (text e.typeName),
          field "member" (text e.member),
          field "value" (Text.integerText e.value.toInt) ]

def properties (map : PropertyMap Value) : List Char :=
  let entries := map.entries.map fun (name, entry) =>
    text name ++ ':' :: ' ' :: value entry
  '\x7b' :: (listed entries ++ ['\x7d'])

/-- An entity.  Of a record only the name of its type is known. -/
def entity : Entity → List Char
  | .structured typeName map =>
      tagged "Structured" <| fielded "StructuredObject"
        [field "edm_type" (text typeName), field "properties" (properties map)]
  | .typed runtimeName _ => tagged "Typed" (text runtimeName)

def codec (codec : Codec) : List Char :=
  fielded "SkipTokenCodec"
    [ field "config" <| fielded "SkipTokenConfig"
        [ field "field_delimiter" (Text.escapedChar codec.delimiters.field),
          field "property_delimiter"
            (Text.escapedChar codec.delimiters.property) ] ]

def state : TokenState → List Char
  | .fresh => "Fresh".toList
  | .seeded token values =>
      fielded "Seeded"
        [ field "raw" (Text.escapedText token),
          field "values" (properties values) ]

/-- A handler.  Its strategy is not shown. -/
def handler (handler : Handler) : List Char :=
  fielded "SkipTokenHandler"
    [ field "codec" (codec handler.codec),
      field "state" (state handler.state),
      "..".toList ]

end Inspection

end KeysetPaging
