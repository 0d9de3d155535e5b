import KeysetPaging.Decimal.Text
import KeysetPaging.Error
import KeysetPaging.Literal.Spelling
import KeysetPaging.Schema.Model

/-!
# Reading literals

A literal is read in one of two ways.  Without a declared type the kind of the
value follows from the shape of the text, and the shapes are tried in a fixed
order; a qualified enum literal has no such shape.  With a declared type only
literals of that type are read, some of them in more spellings, and enum
members are looked up in the model.
-/

namespace KeysetPaging

namespace Literal

def bool? (text : List Char) : Option Bool :=
  if text = boolText true then some true
  else if text = boolText false then some false
  else none

def string? (text : List Char) : Option String :=
  (Text.unquote? text).map String.ofList

/-- The number a literal denotes.  It begins with a digit or a sign. -/
def number? : List Char → Option Decimal
  | [] => none
  | c :: rest =>
      if c.isDigit ∨ c = '-' ∨ c = '+' then Decimal.ofText? (c :: rest)
      else none

/-- The value of an unquoted literal other than null and the booleans. -/
def unquoted? (text : List Char) : Option Value :=
  ((Guid.ofGrouped? text).map Value.guid).or <|
    ((Instant.ofText? text).map Value.instant).or <|
      ((Date.ofText? text).map Value.date).or <|
        ((TimeOfDay.ofText? text).map Value.time).or <|
          (number? text).map Value.number

/-- The value a literal denotes by its shape. -/
def value? (text : List Char) : Option Value :=
  if text = nullText then some .null
  else match bool? text with
    | some value => some (.bool value)
    | none =>
        if text.head? = some '\'' then (string? text).map Value.string
        else unquoted? text

def invalid (text : List Char) : Error :=
  .invalidLiteral (String.ofList text)

/-- An optional reading, where a missing one is an invalid literal. -/
def orInvalid {α : Type} (text : List Char) : Option α → Except Error α
  | some value => .ok value
  | none => .error (invalid text)

def parse (text : List Char) : Except Error Value :=
  orInvalid text (value? text)

def primitive? (kind : PrimitiveKind) (text : List Char) : Option Value :=
  match kind with
  | .string => (string? text).map .string
  | .int64 => (Text.int64? text).map Value.ofInt64
  | .float64 => (number? text).map .number
  | .decimal => (number? text).map .number
  | .bool => (bool? text).map .bool
  | .guid => (Guid.ofText? text).map .guid
  | .instant => (Instant.ofText? text).map .instant
  | .date => (Date.ofText? text).map .date
  | .time => (TimeOfDay.ofText? text).map .time

/-- The member name that a literal of an enum type gives: quoted after the full
name of the type, quoted alone, or by its number. -/
def memberName (enum : EnumType) (text : List Char) : Except Error String :=
  match enum.fullName.toList.isPrefixOf? text with
  | some quoted => orInvalid quoted (string? quoted)
  | none =>
      if text.head? = some '\'' then orInvalid text (string? text)
      else match Text.int64? text with
        | none => .error (invalid text)
        | some number =>
            match enum.memberNumbered? number with
            | some (name, _) => .ok name
            | none =>
                .error (.unknownEnumMember enum.fullName (String.ofList text))

/-- The member an enum literal denotes.  A number gives a name first, and the
name then gives the member, so the first member of that name counts. -/
def enumMember (enum : EnumType) (text : List Char) :
    Except Error EnumMember := do
  let name ← memberName enum text
  match enum.memberNamed? name with
  | some (_, value) => .ok ⟨enum.fullName, name, value⟩
  | none => .error (.unknownEnumMember enum.fullName name)

/-- Reads a literal of a declared type.  Null belongs to every type. -/
def parseTyped (model : Model) (type : TypeRef) (text : List Char) :
    Except Error Value :=
  if text = nullText then .ok .null
  else match type with
    | .primitive kind => orInvalid text (primitive? kind text)
    | .enum fullName =>
        match model.enumType? fullName with
        | none => .error (.unknownType fullName)
        | some enum => (enumMember enum text).map Value.enum

end Literal

end KeysetPaging
