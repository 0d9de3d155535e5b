import KeysetPaging.Proofs.Handler
import KeysetPaging.Proofs.Token.Surrogate

/-!
# Tokens through next links

The token of a next link comes back to the handler that wrote it: the first
option of the link that is named as the token option holds it, whatever the
request carried before, and the handler reads it as what its strategy recorded.
A surrogate is taken for a surrogate and a token of the grammar for one of the
grammar, with the delimiters that it was written with.
-/

namespace KeysetPaging

theorem Codec.eq_of_delimiters_eq {left right : Codec}
    (same : left.delimiters = right.delimiters) : left = right := by
  cases left
  cases right
  cases same
  rfl

namespace Handler

/-- The handlers that are made with the default strategy or a surrogate one, in
whatever state they have come to be. -/
inductive IsStandard : Option (String × String) → Handler → Prop where
  | default : IsStandard none .default
  | ofDelimiters {delimiters : Delimiters} {handler : Handler} :
      Handler.ofDelimiters delimiters = .ok handler → IsStandard none handler
  | withStrategy {target? : Option (String × String)} {fallback : Codec}
      {delimiters : Delimiters} {handler : Handler} :
      Handler.withStrategy delimiters (.standard target? fallback) =
        .ok handler →
      IsStandard target? handler
  | inState {target? : Option (String × String)} {handler : Handler}
      (state : TokenState) :
      IsStandard target? handler → IsStandard target? { handler with state }

theorem IsStandard.strategy_eq {target? : Option (String × String)}
    {handler : Handler} (standard : handler.IsStandard target?) :
    handler.strategy = .standard target? handler.codec := by
  have written {target? : Option (String × String)} {fallback : Codec} :
      (Strategy.standard target? fallback).delimiters? =
        some fallback.delimiters := by
    cases target? <;> rfl
  have built {target? : Option (String × String)} {fallback : Codec}
      {delimiters : Delimiters} {handler : Handler}
      (made : Handler.withStrategy delimiters (.standard target? fallback) =
        .ok handler) :
      handler.strategy = .standard target? handler.codec := by
    obtain ⟨read, strategy, _, agree⟩ := withStrategy_eq_ok_iff.mp made
    have same : fallback = handler.codec := by
      apply Codec.eq_of_delimiters_eq
      rw [read]
      exact agree _ written
    rw [strategy, same]
  induction standard with
  | default => rfl
  | ofDelimiters made =>
      obtain ⟨codec, _, made⟩ := Fallible.bind_eq_ok_iff.mp made
      exact built made
  | withStrategy made => exact built made
  | inState _ _ induction => exact induction

theorem tokenOf?_nextLink? {handler : Handler} {url link : Uri.Url}
    {pageSize pageLength : Nat} {last : Entity} {context : PageContext}
    (linked : handler.nextLink? url pageSize pageLength (some last) context =
      some link) :
    handler.strategy.token last context.model context.effectiveOrder? ≠ [] ∧
      NextLink.tokenOf? link = some (handler.strategy.token last context.model
        context.effectiveOrder?) := by
  simp only [nextLink?] at linked
  split_ifs at linked with short empty
  constructor
  · simpa using empty
  · exact NextLink.tokenOf?_of_after? linked

/-- The values that a token records of the last entity of a page: its surrogate,
or else the properties of the order and the missing keys. -/
structure Recorded (target? : Option (String × String)) (last : Entity)
    (context : PageContext) (values : PropertyMap Value) : Prop where
  surrogate : ∀ property n,
    Strategy.IsSurrogate target? last context.model property n →
      values.entries = [(property, .ofInt64 n)]
  grammar : (∀ property n,
      ¬ Strategy.IsSurrogate target? last context.model property n) →
    ∃ type, context.model.entityType? last.typeName = some type ∧
      values.names =
        Strategy.recordedNames type (context.effectiveOrder?.getD []) ∧
      ∀ field ∈ values.entries, (last.value field.1).identical field.2 = true

/-- What the token grammar asks of the last entity of a page, if that has no
surrogate. -/
def CanRecordLast (codec : Codec) (target? : Option (String × String))
    (last : Entity) (context : PageContext) : Prop :=
  (∀ property n,
      ¬ Strategy.IsSurrogate target? last context.model property n) →
    ∀ type, context.model.entityType? last.typeName = some type →
      ∀ name ∈ Strategy.recordedNames type (context.effectiveOrder?.getD []),
        codec.CanName name ∧
          codec.CanRecord context.model last.typeName name (last.value name)

section Standard

variable {target? : Option (String × String)} {handler : Handler}
  {last : Entity} {elementType : String}

theorem recorded_of_isSurrogate {context : PageContext} {property : String}
    {n : Int64}
    (surrogate : Strategy.IsSurrogate target? last context.model property n) :
    Recorded target? last context
      (PropertyMap.empty.insert property (.ofInt64 n)) := by
  constructor
  · intro property' n' other
    obtain ⟨rfl, rfl⟩ := surrogate.unique other
    rfl
  · intro absent
    exact (absent property n surrogate).elim

theorem decode_integerText {fullName property : String}
    (standard : handler.IsStandard (some (fullName, property)))
    {context : TokenContext} (isTarget : Strategy.IsTarget fullName context)
    (n : Int64) :
    handler.decode (Text.integerText n.toInt) context =
      .ok (PropertyMap.empty.insert property (.ofInt64 n)) := by
  have read : handler.strategy.readOwn? (Text.integerText n.toInt) context =
      some (PropertyMap.empty.insert property (.ofInt64 n)) := by
    rw [standard.strategy_eq]
    exact Strategy.readSurrogate?_integerText property isTarget n
  obtain ⟨elementType, _, bound, _⟩ := isTarget
  simp [decode, bound, read]

theorem decode_surrogateToken (standard : handler.IsStandard target?)
    {model : Model}
    (sameType : model.resolve? elementType = model.resolve? last.typeName)
    {property : String} {n : Int64}
    (surrogate : Strategy.IsSurrogate target? last model property n) :
    handler.decode (Text.integerText n.toInt) ⟨model, some elementType⟩ =
      .ok (PropertyMap.empty.insert property (.ofInt64 n)) := by
  obtain ⟨⟨type, resolved, rfl⟩, _⟩ := surrogate
  exact decode_integerText standard
    ⟨elementType, type, rfl, sameType.trans resolved, rfl⟩ n

/-- A token of the grammar is no surrogate, and is read as what it records. -/
theorem exists_decode_grammarToken (standard : handler.IsStandard target?)
    {model : Model}
    (sameType : model.resolve? elementType = model.resolve? last.typeName)
    {names : List String} (distinct : names.Nodup)
    (recordable : ∀ name ∈ names, handler.codec.CanName name ∧
      handler.codec.CanRecord model last.typeName name (last.value name)) :
    ∃ values,
      handler.decode (handler.codec.encode last names)
          ⟨model, some elementType⟩ = .ok values ∧
        values.names = names ∧
        ∀ field ∈ values.entries,
          (last.value field.1).identical field.2 = true := by
  have nameable : ∀ name ∈ names, handler.codec.CanName name :=
    fun name listed => (recordable name listed).1
  have grammar : (Strategy.standard target? handler.codec).readOwn?
      (handler.codec.encode last names) ⟨model, some elementType⟩ = none :=
    Strategy.readOwn?_of_no_int64 (handler.codec.int64?_encode last
      fun name listed => (nameable name listed).ne_empty) _
  have bound : (TokenContext.mk model (some elementType)).elementType? =
      some elementType :=
    rfl
  obtain ⟨values, decoded, recorded⟩ := Codec.exists_decode_encode
    handler.codec bound distinct nameable
    (fun name listed => (recordable name listed).2.of_resolve?_eq sameType)
  refine ⟨values, ?_, recorded⟩
  simp [decode, standard.strategy_eq, grammar, decoded]

end Standard

def ticketType : EntityType :=
  (EntityType.new "Desk" "Ticket")
    |>.key "number" .int64
    |>.property "subject" .string

/-- A ticket, which may not have a number yet. -/
def ticket (number : Value) : Entity :=
  .structured "Desk.Ticket"
    (.ofList [("number", number), ("subject", .string "a & b: 1+1=2")])

def ticketPage : PageContext where
  model := Model.empty.add (.entity ticketType)
  order? := some [⟨"subject", .ascending, false⟩]

/-- A request with tokens of its own in two spellings, and a top option. -/
def ticketsUrl : Uri.Url where
  scheme := "https".toList
  authority? := some ⟨none, "example.com".toList, none⟩
  path := "/tickets".toList
  query? := some "$skiptoken=3&%24skipToken=4&$top=9".toList
  fragment? := none
  query_kept := by
    rintro query ⟨⟩
    exact List.all_iff_forall_prop.mp (by decide)

/-- The handler that writes the numbers of tickets. -/
def ticketHandler : Handler where
  codec := .default
  strategy := .surrogate "Desk.Ticket" "number" .default

end Handler

end KeysetPaging
