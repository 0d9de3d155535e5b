import KeysetPaging.Sql.Bound

/-!
# SQL conditions

A condition is a test of one column or a group of conditions under one
connective.  A group of exactly one member gives way to that member when it
becomes part of another group, and an empty conjunction is true.

The text of a condition holds a placeholder for each bound value, in order.  An
operand of a connective stands in parentheses unless it is a plain test of a
column, or the first operand and a group of the same connective.
-/

namespace KeysetPaging.Sql

/-- How the members of a group are joined. -/
inductive Connective where
  | all
  | any
deriving DecidableEq

namespace Connective

/-- The connective between two operands. -/
def separator : Connective → String
  | .all => " AND "
  | .any => " OR "

/-- The condition that a group without members stands for. -/
def emptyText : Connective → String
  | .all => "TRUE"
  | .any => "FALSE"

end Connective

def operatorText : Comparison → String
  | .eq => "="
  | .ne => "<>"
  | .gt => ">"
  | .ge => ">="
  | .lt => "<"
  | .le => "<="

/-- A condition on the rows of a table. -/
inductive Condition where
  | compare (column : String) (operator : Comparison) (value : Bound)
  | isNull (column : String)
  | isNotNull (column : String)
  | never
  | group (connective : Connective) (members : List Condition)

namespace Condition

def always : Condition :=
  .group .all []

/-- A condition as a group of its own. -/
def single (condition : Condition) : Condition :=
  .group .all [condition]

/-- A condition as a member of another group. -/
def asMember : Condition → Condition
  | .group _ [member] => member
  | condition => condition

/-- Two conditions under a connective. -/
def pair (connective : Connective) (left right : Condition) : Condition :=
  .group connective [left.asMember, right.asMember]

/-- A condition restricted by another.  Conjunctions are joined into one. -/
def restrict (current? : Option Condition) (added : Condition) : Condition :=
  match current?, added with
  | none, added => added
  | some (.group .all members), .group .all more =>
      .group .all (members ++ more)
  | some (.group .all members), added =>
      .group .all (members ++ [added.asMember])
  | some current, added => pair .all current added

def columnText (column : String) : String :=
  "\"" ++ column ++ "\""

/-- Whether an operand stands in parentheses. -/
def needsParentheses (connective : Connective) (isFirst : Bool) :
    Condition → Bool
  | .compare .. => false
  | .isNull _ => false
  | .isNotNull _ => false
  | .never => true
  | .group _ [] => false
  | .group inner _ => !(isFirst && inner == connective)

/-- An operand with the parentheses it needs. -/
def parenthesized (connective : Connective) (isFirst : Bool)
    (condition : Condition) (text : String) : String :=
  if needsParentheses connective isFirst condition then "(" ++ text ++ ")"
  else text

mutual

def text : Condition → String
  | .compare column operator _ =>
      columnText column ++ " " ++ operatorText operator ++ " ?"
  | .isNull column => columnText column ++ " IS NULL"
  | .isNotNull column => columnText column ++ " IS NOT NULL"
  | .never => "1=0"
  | .group connective [] => connective.emptyText
  | .group _ [member] => text member
  | .group connective (first :: second :: rest) =>
      parenthesized connective true first (text first) ++
        operandsText connective (second :: rest)

/-- The text of the operands after the first. -/
def operandsText (connective : Connective) : List Condition → String
  | [] => ""
  | operand :: rest =>
      connective.separator ++
        parenthesized connective false operand (text operand) ++
          operandsText connective rest

end

mutual

def values : Condition → List Bound
  | .compare _ _ value => [value]
  | .isNull _ => []
  | .isNotNull _ => []
  | .never => []
  | .group _ members => memberValues members

def memberValues : List Condition → List Bound
  | [] => []
  | member :: rest => values member ++ memberValues rest

end

end Condition

end KeysetPaging.Sql
