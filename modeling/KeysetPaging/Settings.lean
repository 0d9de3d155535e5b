import KeysetPaging.Document
import KeysetPaging.Error
import KeysetPaging.PropertyMap

/-!
# Settings

Delimiters are configured in layers of records, of which later ones override
earlier ones.  The layers may hold nothing but the two delimiters, and what they
leave out takes its default.  The outcome is checked like any other delimiters.

Query settings are read leniently: unknown parts are ignored, and a list gives
the settings by their position.
-/

namespace KeysetPaging

/-- Why delimiters cannot be loaded. -/
inductive LoadFault where
  /-- The layers are no records of single characters, or hold other parts. -/
  | malformed
  | invalid (fault : DelimiterFault)
deriving DecidableEq

namespace Delimiters

/-- The parts of layers of records, later ones in place of earlier ones. -/
def mergeLayers? (layers : List Document) : Option (PropertyMap Document) :=
  (layers.mapM Document.parts?).map fun parts => .ofList parts.flatten

/-- The names of the parts that layers may hold. -/
def settingNames : List String :=
  [DelimiterRole.field.settingName, DelimiterRole.property.settingName]

/-- The delimiter that parts give for a role. -/
def delimiter? (parts : PropertyMap Document) (role : DelimiterRole)
    (fallback : Char) : Option Char :=
  match parts.get? role.settingName with
  | none => some fallback
  | some part => part.char?

/-- The delimiters that parts give, not yet checked. -/
def ofParts? (parts : PropertyMap Document) : Option Delimiters :=
  let defaults : Delimiters := {}
  if parts.names.all settingNames.contains then do
    let field ← delimiter? parts .field defaults.field
    let property ← delimiter? parts .property defaults.property
    some { field, property }
  else none

def load (layers : List Document) : Except LoadFault Delimiters :=
  match (mergeLayers? layers).bind ofParts? with
  | none => .error .malformed
  | some delimiters =>
      (delimiters.check.map fun () => delimiters).mapError LoadFault.invalid

end Delimiters

structure QuerySettings where
  /-- Whether constants of predicates are lifted into parameters. -/
  parameterize : Bool := false
deriving DecidableEq

namespace QuerySettings

def parameterizeName : String :=
  "enable_constant_parameterization"

/-- Settings from the document of their only part. -/
def ofPart? : Option Document → Option QuerySettings
  | none => some {}
  | some part => part.bool?.map fun parameterize => { parameterize }

/-- Settings from a document: a record, or a list in the order of the
settings. -/
def ofDocument? : Document → Option QuerySettings
  | .record parts =>
      ofPart? ((PropertyMap.ofList parts).get? parameterizeName)
  | .list [] => ofPart? none
  | .list [part] => ofPart? (some part)
  | _ => none

def toDocument (settings : QuerySettings) : Document :=
  .record [(parameterizeName, .bool settings.parameterize)]

theorem ofDocument?_toDocument (settings : QuerySettings) :
    ofDocument? settings.toDocument = some settings := by
  cases settings
  rfl

end QuerySettings

end KeysetPaging
