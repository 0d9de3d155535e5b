import KeysetPaging.Schema.Types
import KeysetPaging.Text.Lowercase

/-!
# Mapped columns

The properties that filters name are mapped to columns of a table.  Property
names are matched in any letter case, and a later mapping of a name replaces an
earlier one.
-/

namespace KeysetPaging.Sql

/-- A column of a table and the type of its values. -/
structure Column where
  name : String
  kind : PrimitiveKind
deriving DecidableEq

/-- The mapped properties of an entity type. -/
structure Columns where
  /-- The name of the entity type, as messages show it. -/
  entityName : String
  /-- The columns by property name in lower case. -/
  mapped : PropertyMap Column := .empty

namespace Columns

def insert (columns : Columns) (property : String) (column : Column) :
    Columns :=
  { columns with mapped := columns.mapped.insert (Text.lower property) column }

def column? (columns : Columns) (property : String) : Option Column :=
  columns.mapped.get? (Text.lower property)

end Columns

end KeysetPaging.Sql
