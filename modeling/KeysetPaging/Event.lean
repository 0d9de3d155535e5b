/-!
# Diagnostic events

What a service may log about its tokens: a level, a message and named fields.
Events have no influence on any outcome, so they are computed apart from it, by
functions of the same arguments.
-/

namespace KeysetPaging

/-- The weight of an event. -/
inductive Level where
  | trace
  | debug
  | warn
deriving DecidableEq

namespace Level

def name : Level → String
  | .trace => "trace"
  | .debug => "debug"
  | .warn => "warn"

end Level

/-- The value of a field of an event. -/
inductive FieldValue where
  | text (value : String)
  | count (value : Nat)
deriving DecidableEq

structure Event where
  level : Level
  message : String
  fields : List (String × FieldValue)
deriving DecidableEq

namespace Event

def textField (name : String) (value : List Char) : String × FieldValue :=
  (name, .text (String.ofList value))

def countField (name : String) (value : Nat) : String × FieldValue :=
  (name, .count value)

end Event

end KeysetPaging
