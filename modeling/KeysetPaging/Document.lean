import KeysetPaging.Decimal.Basic

/-!
# Configuration documents

The plain data that configuration is read from: records of named parts, lists
and scalars.  Where records name a part twice, the later one counts.
-/

namespace KeysetPaging

/-- A piece of plain data. -/
inductive Document where
  | null
  | bool (value : Bool)
  | number (value : Decimal)
  | text (value : String)
  | list (items : List Document)
  | record (parts : List (String × Document))
deriving Inhabited

namespace Document

def parts? : Document → Option (List (String × Document))
  | .record parts => some parts
  | _ => none

/-- The character that a one-character text holds. -/
def char? : Document → Option Char
  | .text value =>
      match value.toList with
      | [c] => some c
      | _ => none
  | _ => none

def bool? : Document → Option Bool
  | .bool value => some value
  | _ => none

end Document

end KeysetPaging
