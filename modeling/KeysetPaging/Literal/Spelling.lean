import KeysetPaging.Decimal.Text
import KeysetPaging.Text.Quoted
import KeysetPaging.Value

/-!
# Literals

Every value has one spelling in a URI: `null`, `true`, `-1.25`, `'O''Neil'`, a
guid, a date-time in UTC, a date, a time of day, or an enum member after the
name of its type, as in `Sales.Status'Open'`.
-/

namespace KeysetPaging

namespace Literal

def nullText : List Char := "null".toList

def boolText : Bool → List Char
  | true => "true".toList
  | false => "false".toList

def spelling : Value → List Char
  | .null => nullText
  | .bool value => boolText value
  | .number value => value.spelling
  | .guid value => value.spelling
  | .instant value => value.spelling
  | .date value => value.spelling
  | .time value => value.spelling
  | .string value => Text.quote value.toList
  | .enum value => value.typeName.toList ++ Text.quote value.member.toList

def render (value : Value) : String :=
  String.ofList (spelling value)

end Literal

instance : ToString Value := ⟨Literal.render⟩

end KeysetPaging
