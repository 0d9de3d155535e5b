import KeysetPaging.Text.Alphanumeric
import KeysetPaging.Text.Blank

/-!
# Delimiters

A token lists fields, parted by one character, and each field is a name and a
literal, parted by another.  Literals are not escaped, so the delimiters are
chosen to keep out of them: neither is a quote, a letter, a digit or white
space, and the field delimiter is none of the signs that numbers, dates and
times are written with.
-/

namespace KeysetPaging

structure Delimiters where
  field : Char := ','
  property : Char := ':'
deriving DecidableEq

inductive DelimiterRole where
  | field
  | property
deriving DecidableEq

namespace DelimiterRole

/-- The setting that holds the delimiter. -/
def settingName : DelimiterRole → String
  | .field => "field_delimiter"
  | .property => "property_delimiter"

end DelimiterRole

/-- What can be wrong with delimiters. -/
inductive DelimiterFault where
  | equal (delimiter : Char)
  /-- The character may begin, end or stand inside any literal. -/
  | conflicting (role : DelimiterRole) (delimiter : Char)
  /-- The field delimiter is a sign of unquoted literals. -/
  | insideLiterals (delimiter : Char)
  /-- Tokens are written with other delimiters than they are read with. -/
  | disagreeing (written read : Delimiters)
deriving DecidableEq

namespace DelimiterFault

def quoted (c : Char) : String :=
  "'" ++ c.toString ++ "'"

def quotedPair (delimiters : Delimiters) : String :=
  quoted delimiters.field ++ "/" ++ quoted delimiters.property

def message : DelimiterFault → String
  | .equal delimiter =>
      "field and property delimiters must differ (both " ++ quoted delimiter ++
        ")"
  | .conflicting role delimiter =>
      role.settingName ++ " " ++ quoted delimiter ++
        " conflicts with the literal grammar"
  | .insideLiterals delimiter =>
      "field_delimiter " ++ quoted delimiter ++ " appears inside literals"
  | .disagreeing written read =>
      "generator writes " ++ quotedPair written ++
        " delimited tokens, handler decodes " ++ quotedPair read

end DelimiterFault

namespace Delimiters

/-- The signs of unquoted numbers, dates, times and guids. -/
def literalSigns : List Char :=
  ['-', ':', '.', '+']

/-- Whether a character may be the beginning, the end or a part of any kind of
literal. -/
def inLiteralGrammar (c : Char) : Bool :=
  c == '\'' || Text.isAlphanumeric c || Text.isBlank c

/-- Checks delimiters, and reports the first fault. -/
def check (delimiters : Delimiters) : Except DelimiterFault Unit :=
  if delimiters.field = delimiters.property then
    .error (.equal delimiters.field)
  else if inLiteralGrammar delimiters.field then
    .error (.conflicting .field delimiters.field)
  else if inLiteralGrammar delimiters.property then
    .error (.conflicting .property delimiters.property)
  else if literalSigns.contains delimiters.field then
    .error (.insideLiterals delimiters.field)
  else .ok ()

def Valid (delimiters : Delimiters) : Prop :=
  delimiters.check = .ok ()

instance (delimiters : Delimiters) : Decidable delimiters.Valid :=
  match checked : delimiters.check with
  | .ok () => isTrue checked
  | .error _ => isFalse fun valid => by simp [Valid, checked] at valid

theorem valid_default : Valid {} := by decide

end Delimiters

end KeysetPaging
