import KeysetPaging.Proofs.Filter.Evaluation
import KeysetPaging.Sql.Condition

/-!
# The truth of SQL conditions

A condition on a row is true, false or unknown, and a query keeps the rows on
which it is true.  The database itself is a parameter: an engine decides tests
of a column against a bound value, and all that is assumed of it is that the
test of a missing value is unknown and that values of the column's own type are
compared the way the library compares them.

Conditions have no negation, so the truth of a group is determined by the truth
of its members alone, and a false member need not be told from an unknown one.
-/

namespace KeysetPaging

/-- The values of a primitive type, enum members standing for integers. -/
def PrimitiveKind.Admits : PrimitiveKind → Value → Prop
  | .string, .string _ => True
  | .int64, .number number => ∃ n : Int64, number.toRat = n.toInt
  | .int64, .enum _ => True
  | .float64, .number _ => True
  | .decimal, .number _ => True
  | .bool, .bool _ => True
  | .guid, .guid _ => True
  | .instant, .instant _ => True
  | .date, .date _ => True
  | .time, .time _ => True
  | _, _ => False

theorem PrimitiveKind.exists_compare_of_admits {kind : PrimitiveKind}
    {left right : Value} (leftAdmitted : kind.Admits left)
    (rightAdmitted : kind.Admits right) :
    ∃ order, left.compare right = some order := by
  cases kind <;> cases left <;> cases right <;>
    first
    | exact leftAdmitted.elim
    | exact rightAdmitted.elim
    | exact ⟨_, rfl⟩

namespace Sql

/-- The outcome of a condition on a row. -/
inductive Truth where
  | holds
  | fails
  | unknown
deriving DecidableEq

namespace Truth

def ofBool : Bool → Truth
  | true => .holds
  | false => .fails

/-- Conjunction: false if either side is, and true if both are. -/
def and : Truth → Truth → Truth
  | .fails, _ => .fails
  | _, .fails => .fails
  | .holds, .holds => .holds
  | _, _ => .unknown

/-- Disjunction: true if either side is, and false if both are. -/
def or : Truth → Truth → Truth
  | .holds, _ => .holds
  | _, .holds => .holds
  | .fails, .fails => .fails
  | _, _ => .unknown

@[simp] theorem ofBool_eq_holds_iff {value : Bool} :
    ofBool value = .holds ↔ value = true := by
  cases value <;> simp [ofBool]

@[simp] theorem and_eq_holds_iff {left right : Truth} :
    left.and right = .holds ↔ left = .holds ∧ right = .holds := by
  cases left <;> cases right <;> simp [and]

@[simp] theorem or_eq_holds_iff {left right : Truth} :
    left.or right = .holds ↔ left = .holds ∨ right = .holds := by
  cases left <;> cases right <;> simp [or]

@[simp] theorem and_holds (truth : Truth) : truth.and .holds = truth := by
  cases truth <;> rfl

@[simp] theorem or_fails (truth : Truth) : truth.or .fails = truth := by
  cases truth <;> rfl

end Truth

namespace Bound

/-- The value that is bound.  A binary floating-point number is none of the
values of properties. -/
def value? : Bound → Option Value
  | .text value => some (.string value)
  | .integer value => some (.ofInt64 value)
  | .double _ => none
  | .decimal value => some (.number value)
  | .bool value => some (.bool value)
  | .guid value => some (.guid value)
  | .instant value => some (.instant value)
  | .date value => some (.date value)
  | .time value => some (.time value)

/-- A bound value denotes a constant when the two are equal in the order. -/
def Denotes (bound : Bound) (constant : Value) : Prop :=
  ∃ value, bound.value? = some value ∧ value.equals constant = true

end Bound

/-- A database engine, as far as the tests of columns go. -/
structure Engine where
  /-- The outcome of a test of a column's value against a bound value. -/
  test : Value → Comparison → Bound → Truth
  test_null : ∀ operator bound, test .null operator bound = .unknown
  test_agrees : ∀ {kind : PrimitiveKind} {cell value : Value} {bound : Bound}
    {order : Ordering} (operator : Comparison),
    kind.Admits cell → kind.Admits value → bound.value? = some value →
      cell.compare value = some order →
        test cell operator bound = .ofBool (operator.accepts order)

namespace Engine

def reference : Engine where
  test cell operator bound :=
    match bound.value?.bind cell.compare with
    | some order => .ofBool (operator.accepts order)
    | none => .unknown
  test_null := by
    intro operator bound
    cases bound <;> rfl
  test_agrees := by
    intro kind cell value bound order operator _ _ denoted compared
    simp [denoted, compared]

end Engine

namespace Condition

mutual

/-- The truth of a condition on a row, given by the values of its columns. -/
def truth (engine : Engine) (cells : String → Value) : Condition → Truth
  | .compare column operator bound => engine.test (cells column) operator bound
  | .isNull column => .ofBool (cells column = .null)
  | .isNotNull column => .ofBool (cells column ≠ .null)
  | .never => .fails
  | .group .all members => conjunction engine cells members
  | .group .any members => disjunction engine cells members

def conjunction (engine : Engine) (cells : String → Value) :
    List Condition → Truth
  | [] => .holds
  | member :: rest =>
      (truth engine cells member).and (conjunction engine cells rest)

def disjunction (engine : Engine) (cells : String → Value) :
    List Condition → Truth
  | [] => .fails
  | member :: rest =>
      (truth engine cells member).or (disjunction engine cells rest)

end

variable (engine : Engine) (cells : String → Value)

theorem conjunction_append (members more : List Condition) :
    conjunction engine cells (members ++ more) = .holds ↔
      conjunction engine cells members = .holds ∧
        conjunction engine cells more = .holds := by
  induction members with
  | nil => simp [conjunction]
  | cons member members induction =>
      simp only [List.cons_append, conjunction, Truth.and_eq_holds_iff,
        induction, and_assoc]

@[simp] theorem truth_single (condition : Condition) :
    truth engine cells condition.single = truth engine cells condition := by
  simp [single, truth, conjunction]

@[simp] theorem truth_always :
    truth engine cells always = .holds := by
  simp [always, truth, conjunction]

@[simp] theorem truth_asMember (condition : Condition) :
    truth engine cells condition.asMember = truth engine cells condition := by
  unfold asMember
  split
  · rename_i connective member
    cases connective <;> simp [truth, conjunction, disjunction]
  · rfl

@[simp] theorem truth_pair_all (left right : Condition) :
    truth engine cells (pair .all left right) =
      (truth engine cells left).and (truth engine cells right) := by
  simp [pair, truth, conjunction]

@[simp] theorem truth_pair_any (left right : Condition) :
    truth engine cells (pair .any left right) =
      (truth engine cells left).or (truth engine cells right) := by
  simp [pair, truth, disjunction]

/-- A condition that may be absent, in which case it keeps every row. -/
def Keeps : Option Condition → Prop
  | none => True
  | some condition => truth engine cells condition = .holds

theorem truth_restrict (current? : Option Condition) (added : Condition) :
    truth engine cells (restrict current? added) = .holds ↔
      Keeps engine cells current? ∧ truth engine cells added = .holds := by
  unfold restrict
  split
  · simp [Keeps]
  · simp only [Keeps, truth]
    exact conjunction_append engine cells _ _
  · simp [Keeps, truth, conjunction_append, conjunction]
  · simp [Keeps]

end Condition

end Sql

end KeysetPaging
