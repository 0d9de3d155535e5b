import KeysetPaging.Proofs.LinkToken

/-!
# Telling tokens apart

Under the surrogate strategy one option of a request holds tokens of two
languages, bare integers and the token grammar, and nothing but their look tells
them apart.  An integer is read for the target type only, and there it means one
thing.  A token of the grammar never looks like one: the delimiter of its first
field stands behind a name and is no digit, even if it is a sign, and a token
without fields has no digits either.
-/

namespace KeysetPaging

namespace Strategy

/-- The properties that the default token records of an entity, if it records
any, have names. -/
def RecordsNamed (entity : Entity) (model : Model)
    (order? : Option SortOrder) : Prop :=
  ∀ type names, model.entityType? entity.typeName = some type →
    recordedProperties? type order? = some names → ∀ name ∈ names, name ≠ ""

/-- A default token is no integer, whatever its delimiters are. -/
theorem int64?_defaultToken (codec : Codec) {entity : Entity} {model : Model}
    {order? : Option SortOrder} (named : RecordsNamed entity model order?) :
    Text.int64? (defaultToken codec entity model order?) = none := by
  unfold defaultToken
  cases resolved : model.entityType? entity.typeName with
  | none => rfl
  | some type =>
      cases recorded : recordedProperties? type order? with
      | none => simp only [recorded]; rfl
      | some names =>
          simp only [recorded]
          exact codec.int64?_encode entity (named type names resolved recorded)

theorem codec_eq_of_withStrategy {fullName property : String} {fallback : Codec}
    {delimiters : Delimiters} {handler : Handler}
    (made : Handler.withStrategy delimiters
      (surrogate fullName property fallback) = .ok handler) :
    handler.strategy = surrogate fullName property fallback ∧
      handler.codec = fallback := by
  obtain ⟨read, strategy, _, agree⟩ := Handler.withStrategy_eq_ok_iff.mp made
  refine ⟨strategy, Codec.eq_of_delimiters_eq ?_⟩
  rw [read, agree fallback.delimiters rfl]

/-- The surrogate strategy is unambiguous.  An entity with a surrogate has the
integer for its token, and wherever the element type is the target type that
token is read as the surrogate and nothing else.  Every other entity has the
token of the fallback, which is taken for a surrogate in no context, so that a
handler reads it as the fallback writes it.  Where the element type is not the
target type no token is taken for a surrogate. -/
theorem surrogate_unambiguous (fullName property : String) (fallback : Codec)
    (entity : Entity) (model : Model) (order? : Option SortOrder) :
    (∀ n, IsSurrogate (some (fullName, property)) entity model property n →
      surrogateToken fullName property fallback entity model order? =
        Text.integerText n.toInt ∧
      ∀ context, IsTarget fullName context → ∃ values number read,
        readSurrogate? fullName property
            (surrogateToken fullName property fallback entity model order?)
            context = some values ∧
          values.entries = [(property, .number read)] ∧
          entity.value property = .number number ∧
          read.toRat = number.toRat) ∧
    ((∀ n, ¬ IsSurrogate (some (fullName, property)) entity model property n) →
      RecordsNamed entity model order? →
      surrogateToken fullName property fallback entity model order? =
        defaultToken fallback entity model order? ∧
      (∀ context, readSurrogate? fullName property
        (surrogateToken fullName property fallback entity model order?)
        context = none) ∧
      ∀ delimiters handler, Handler.withStrategy delimiters
          (surrogate fullName property fallback) = .ok handler →
        ∀ state context, ({ handler with state } : Handler).decode
            (surrogateToken fullName property fallback entity model order?)
            context =
          fallback.decode (defaultToken fallback entity model order?)
            context) ∧
    ∀ token context, ¬ IsTarget fullName context →
      readSurrogate? fullName property token context = none := by
  refine ⟨?_, ?_, ?_⟩
  · intro n isSurrogate
    have written : surrogateToken fullName property fallback entity model
        order? = Text.integerText n.toInt :=
      token_of_isSurrogate isSurrogate
    refine ⟨written, fun context isTarget => ?_⟩
    obtain ⟨number, held, value⟩ := isSurrogate.whole
    refine ⟨PropertyMap.empty.insert property (.ofInt64 n), number, .ofInt64 n,
      ?_, rfl, held, (Decimal.toRat_ofInt64 n).trans value.symm⟩
    rw [written]
    exact readSurrogate?_integerText property isTarget n
  · intro absent named
    have absentAnywhere : ∀ other n,
        ¬ IsSurrogate (some (fullName, property)) entity model other n := by
      intro other n isSurrogate
      obtain ⟨type, _, target⟩ := isSurrogate.of_target
      cases target
      exact absent n isSurrogate
    have written : surrogateToken fullName property fallback entity model
        order? = defaultToken fallback entity model order? :=
      token_of_no_surrogate absentAnywhere
    have unread : ∀ context,
        (standard (some (fullName, property)) fallback).readOwn?
          (defaultToken fallback entity model order?) context = none :=
      readOwn?_of_no_int64 (int64?_defaultToken fallback named)
    rw [written]
    refine ⟨rfl, unread, ?_⟩
    intro delimiters handler made state context
    obtain ⟨strategy, codec⟩ := codec_eq_of_withStrategy made
    rw [Handler.decode_of_readOwn?_eq_none, codec]
    rw [strategy]
    exact unread context
  · intro token context other
    exact readSurrogate?_of_not_isTarget other token

/-- Delimiters under which a token of the grammar may look like a difference. -/
def hyphenated : Codec := ⟨{ field := ';', property := '-' }, rfl⟩

/-- Rows with a key that is named like a number, and a rank. -/
def rowType : EntityType :=
  (EntityType.new "Desk" "Row")
    |>.key "1" .int64
    |>.property "rank" .decimal

def row (rank : Value) : Entity :=
  .structured "Desk.Row" (.ofList [("1", .ofInt64 7), ("rank", rank)])

def rowModel : Model :=
  Model.empty.add (.entity rowType)

/-- A row with a whole rank is recorded by it.  One with a fraction is recorded
by its key, in the grammar, though the token consists of digits and a sign. -/
theorem surrogate_unambiguous_hyphenated :
    surrogateToken "Desk.Row" "rank" hyphenated (row (.number ⟨-50, 1⟩))
        rowModel none = "-5".toList ∧
    (∃ values, readSurrogate? "Desk.Row" "rank" "-5".toList
        ⟨rowModel, some "Desk.Row"⟩ = some values) ∧
    surrogateToken "Desk.Row" "rank" hyphenated (row (.number ⟨15, 1⟩))
        rowModel none = "1-7".toList ∧
    readSurrogate? "Desk.Row" "rank" "1-7".toList
        ⟨rowModel, some "Desk.Row"⟩ = none ∧
    ∃ handler, Handler.withStrategy hyphenated.delimiters
        (surrogate "Desk.Row" "rank" hyphenated) = .ok handler ∧
      handler.decode "1-7".toList ⟨rowModel, some "Desk.Row"⟩ =
        hyphenated.decode "1-7".toList ⟨rowModel, some "Desk.Row"⟩ := by
  obtain ⟨whole, _, _⟩ := surrogate_unambiguous "Desk.Row" "rank" hyphenated
    (row (.number ⟨-50, 1⟩)) rowModel none
  obtain ⟨_, fraction, _⟩ := surrogate_unambiguous "Desk.Row" "rank" hyphenated
    (row (.number ⟨15, 1⟩)) rowModel none
  have isTarget : IsTarget "Desk.Row" ⟨rowModel, some "Desk.Row"⟩ :=
    ⟨"Desk.Row", .entity rowType, rfl, rfl, rfl⟩
  have hasSurrogate : IsSurrogate (some ("Desk.Row", "rank"))
      (row (.number ⟨-50, 1⟩)) rowModel "rank" (-5) :=
    targetSurrogate?_eq_some_iff.mp (by decide)
  have noSurrogate : ∀ n, ¬ IsSurrogate (some ("Desk.Row", "rank"))
      (row (.number ⟨15, 1⟩)) rowModel "rank" n := by
    intro n isSurrogate
    have found := targetSurrogate?_eq_some_iff.mpr isSurrogate
    have broken : targetSurrogate? "Desk.Row" "rank" (row (.number ⟨15, 1⟩))
        rowModel = none := by
      decide
    rw [broken] at found
    cases found
  have named : RecordsNamed (row (.number ⟨15, 1⟩)) rowModel none := by
    rintro type names ⟨⟩ recorded name member
    have onlyKey : recordedProperties? rowType none = some ["1"] := by decide
    rw [onlyKey] at recorded
    cases recorded
    rw [List.mem_singleton.mp member]
    decide
  obtain ⟨integer, read⟩ := whole (-5) hasSurrogate
  obtain ⟨values, _, _, found, _⟩ := read _ isTarget
  obtain ⟨grammar, unread, decodes⟩ := fraction noSurrogate named
  have digits : Text.integerText (-5 : Int64).toInt = "-5".toList := by decide
  have fields : defaultToken hyphenated (row (.number ⟨15, 1⟩)) rowModel none =
      "1-7".toList := by
    decide
  rw [integer, digits] at found
  rw [grammar, fields] at unread decodes
  obtain ⟨handler, made⟩ : ∃ handler, Handler.withStrategy
      hyphenated.delimiters (surrogate "Desk.Row" "rank" hyphenated) =
        .ok handler :=
    ⟨_, rfl⟩
  exact ⟨integer.trans digits, ⟨values, found⟩, grammar.trans fields,
    unread ⟨rowModel, some "Desk.Row"⟩, handler, made,
    decodes _ handler made handler.state _⟩

end Strategy

end KeysetPaging
