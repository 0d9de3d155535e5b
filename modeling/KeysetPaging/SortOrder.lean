import KeysetPaging.PropertyMap
import KeysetPaging.Schema.Types
import KeysetPaging.Text.Blank

/-!
# Sort orders

A sort order is a list of terms, each a property name and a direction.  A term
is dynamic when it names a property that an open type does not declare.

An order is read from text such as `name desc, id`: items parted by commas, each
of one or two words.  It is shown in the same form with every direction written
out.
-/

namespace KeysetPaging

inductive Direction where
  | ascending
  | descending
deriving DecidableEq

namespace Direction

def keyword : Direction → List Char
  | .ascending => "asc".toList
  | .descending => "desc".toList

end Direction

/-- One property to sort by. -/
structure SortTerm where
  name : String
  direction : Direction
  isDynamic : Bool := false
deriving DecidableEq

/-- The properties to sort by, the most significant first. -/
abbrev SortOrder := List SortTerm

/-- What can be wrong with the text of a sort order. -/
inductive OrderFault where
  | emptyItem (text : String)
  /-- The second word of an item is no direction. -/
  | unknownDirection (word name : String)
  | extraWords (item : String)
  | undeclared (name : String)
deriving DecidableEq

namespace OrderFault

def message : OrderFault → String
  | .emptyItem text => "empty item in '" ++ text ++ "'"
  | .unknownDirection word name =>
      "unknown direction '" ++ word ++ "' for " ++ name
  | .extraWords item => item
  | .undeclared name => name

end OrderFault

namespace SortOrder

/-- The direction a word names, in either letter case. -/
def direction? (word : List Char) : Option Direction :=
  if word = Direction.ascending.keyword then some .ascending
  else if word = Direction.descending.keyword then some .descending
  else none

/-- A term for a property of an entity type.  Names that the type does not
declare are dynamic properties of open types. -/
def resolve (entity : EntityType) (name : String) (direction : Direction) :
    Except OrderFault SortTerm :=
  if entity.declares name then .ok ⟨name, direction, false⟩
  else if entity.isOpen then .ok ⟨name, direction, true⟩
  else .error (.undeclared name)

/-- The direction of an item, from the words after its name.  A wrong direction
is reported before further words are. -/
def readDirection (item : List Char) (name : List Char) :
    List (List Char) → Except OrderFault Direction
  | [] => .ok .ascending
  | word :: rest =>
      let lower := word.map Char.toLower
      match direction? lower with
      | none =>
          .error (.unknownDirection (String.ofList lower) (String.ofList name))
      | some direction =>
          if rest.isEmpty then .ok direction
          else .error (.extraWords (String.ofList (Text.trim item)))

/-- The term an item spells. -/
def readItem (entity : EntityType) (text item : List Char) :
    Except OrderFault SortTerm :=
  match Text.words item with
  | [] => .error (.emptyItem (String.ofList text))
  | name :: rest => do
      let direction ← readDirection item name rest
      resolve entity (String.ofList name) direction

/-- The terms of items, up to the first item at fault. -/
def readItems (entity : EntityType) (text : List Char) :
    List (List Char) → Except OrderFault SortOrder
  | [] => .ok []
  | item :: rest => do
      let term ← readItem entity text item
      let terms ← readItems entity text rest
      .ok (term :: terms)

/-- The order a text spells for an entity type. -/
def parse (entity : EntityType) (text : String) : Except OrderFault SortOrder :=
  readItems entity text.toList (text.toList.splitOn ',')

def termText (term : SortTerm) : List Char :=
  term.name.toList ++ ' ' :: term.direction.keyword

def display (order : SortOrder) : String :=
  if order.isEmpty then "(none)"
  else String.ofList ([',', ' '].intercalate (order.map termText))

/-- The direction of each declared property.  Of two terms for one property the
later one counts. -/
def directions (order : SortOrder) : PropertyMap Direction :=
  .ofList ((order.filter fun term => !term.isDynamic).map fun term =>
    (term.name, term.direction))

def isDynamic (order : SortOrder) : Bool :=
  order.any SortTerm.isDynamic

end SortOrder

end KeysetPaging
