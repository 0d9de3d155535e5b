import KeysetPaging.Handler
import KeysetPaging.Proofs.NextLink
import KeysetPaging.Proofs.Token.RoundTrip
import KeysetPaging.Proofs.Token.Strategy

/-!
# Handlers

Valid delimiters make a handler, which is fresh and reads tokens with the
delimiters that its strategy writes, if it reports any.  With the default
strategy it reads the tokens that it writes.  It restricts a query by the values
of the token that it holds, and leaves the query alone while it holds none.
-/

namespace KeysetPaging

namespace Codec

theorem ofDelimiters_of_valid {delimiters : Delimiters}
    (valid : delimiters.Valid) :
    ofDelimiters delimiters = .ok ⟨delimiters, valid⟩ := by
  unfold ofDelimiters
  split
  · rfl
  · rename_i fault checked
    rw [Delimiters.Valid, checked] at valid
    cases valid

theorem ofDelimiters_eq_ok_iff {delimiters : Delimiters} {codec : Codec} :
    ofDelimiters delimiters = .ok codec ↔ codec.delimiters = delimiters := by
  constructor
  · intro made
    unfold ofDelimiters at made
    split at made
    · cases made
      rfl
    · cases made
  · rintro rfl
    exact ofDelimiters_of_valid codec.valid

theorem encode_ne_nil (codec : Codec) (entity : Entity) {names : List String}
    (nonempty : names ≠ []) : codec.encode entity names ≠ [] := by
  cases names with
  | nil => exact absurd rfl nonempty
  | cons name names =>
      cases names with
      | nil => simp [encode, fieldText]
      | cons other names => simp [encode, fieldText]

end Codec

namespace Handler

/-- A handler that reads tokens with a codec and writes default ones with it. -/
def ofCodec (codec : Codec) (state : TokenState) : Handler where
  codec := codec
  strategy := .default codec
  state := state

theorem ofDelimiters_of_valid {delimiters : Delimiters}
    (valid : delimiters.Valid) :
    ofDelimiters delimiters = .ok (ofCodec ⟨delimiters, valid⟩ .fresh) := by
  simp [ofDelimiters, Codec.ofDelimiters_of_valid valid, withStrategy,
    Strategy.default, Except.map, ofCodec]

theorem eq_ofCodec_of_ofDelimiters {delimiters : Delimiters} {handler : Handler}
    (made : ofDelimiters delimiters = .ok handler) :
    handler = ofCodec handler.codec .fresh := by
  obtain ⟨codec, read, _⟩ := Fallible.bind_eq_ok_iff.mp made
  obtain rfl := Codec.ofDelimiters_eq_ok_iff.mp read
  rw [ofDelimiters_of_valid codec.valid] at made
  cases made
  rfl

/-- A handler is made of a strategy that writes no delimiters, or those that the
handler reads. -/
theorem withStrategy_eq_ok_iff {delimiters : Delimiters} {strategy : Strategy}
    {handler : Handler} :
    withStrategy delimiters strategy = .ok handler ↔
      handler.codec.delimiters = delimiters ∧ handler.strategy = strategy ∧
        handler.state = .fresh ∧
          ∀ written, strategy.delimiters? = some written →
            written = delimiters := by
  have built : (Codec.ofDelimiters delimiters).map
        (fun codec => ({ codec, strategy } : Handler)) = .ok handler ↔
      handler.codec.delimiters = delimiters ∧ handler.strategy = strategy ∧
        handler.state = .fresh := by
    cases checked : Codec.ofDelimiters delimiters with
    | error fault =>
        simp only [Except.map, reduceCtorEq, false_iff]
        rintro ⟨same, _⟩
        rw [Codec.ofDelimiters_eq_ok_iff.mpr same] at checked
        cases checked
    | ok codec =>
        have read := Codec.ofDelimiters_eq_ok_iff.mp checked
        simp only [Except.map, Except.ok.injEq]
        constructor
        · rintro rfl
          exact ⟨read, rfl, rfl⟩
        · rintro ⟨same, rfl, fresh⟩
          rw [← Codec.ofDelimiters_eq_ok_iff, checked] at same
          cases same
          rw [← fresh]
  unfold withStrategy
  cases reported : strategy.delimiters? with
  | none =>
      rw [built]
      simp
  | some written =>
      by_cases agree : written = delimiters
      · subst agree
        simp [built]
      · simp [agree]

/-- The handlers that there are: the default one, those of delimiters, and those
of delimiters and a strategy of any kind. -/
inductive IsMade : Handler → Prop where
  | default : IsMade .default
  | ofDelimiters {delimiters : Delimiters} {handler : Handler} :
      Handler.ofDelimiters delimiters = .ok handler → IsMade handler
  | withStrategy {delimiters : Delimiters} {strategy : Strategy}
      {handler : Handler} :
      Handler.withStrategy delimiters strategy = .ok handler → IsMade handler

theorem IsMade.fresh {handler : Handler} (made : handler.IsMade) :
    handler.state = .fresh := by
  cases made with
  | default => rfl
  | ofDelimiters built =>
      obtain ⟨codec, _, built⟩ := Fallible.bind_eq_ok_iff.mp built
      exact (withStrategy_eq_ok_iff.mp built).2.2.1
  | withStrategy built => exact (withStrategy_eq_ok_iff.mp built).2.2.1

theorem IsMade.delimiters_eq {handler : Handler} (made : handler.IsMade)
    {written : Delimiters}
    (reported : handler.strategy.delimiters? = some written) :
    handler.codec.delimiters = written := by
  have agree {delimiters : Delimiters} {strategy : Strategy}
      (built : Handler.withStrategy delimiters strategy = .ok handler) :
      handler.codec.delimiters = written := by
    obtain ⟨read, rfl, _, writes⟩ := withStrategy_eq_ok_iff.mp built
    rw [read, writes written reported]
  cases made with
  | default =>
      cases reported
      rfl
  | ofDelimiters built =>
      obtain ⟨codec, _, built⟩ := Fallible.bind_eq_ok_iff.mp built
      exact agree built
  | withStrategy built => exact agree built

theorem decode_of_readOwn?_eq_none {handler : Handler} {token : List Char}
    {context : TokenContext}
    (unread : handler.strategy.readOwn? token context = none) :
    handler.decode token context = handler.codec.decode token context := by
  cases bound : context.elementType? with
  | none => simp [decode, Codec.decode, bound]
  | some elementType => simp [decode, bound, unread]

theorem setToken_of_fresh {handler : Handler} (fresh : handler.state = .fresh)
    {token : List Char} {context : TokenContext} {values : PropertyMap Value}
    (decoded : handler.decode token context = .ok values)
    (nonempty : values.isEmpty = false) :
    handler.setToken token context =
      .ok { handler with state := .seeded token values } := by
  simp [setToken, fresh, TokenState.isSeeded, TokenState.token?, decoded,
    nonempty]

theorem setToken_ofCodec {codec : Codec} {token : List Char}
    {context : TokenContext} {values : PropertyMap Value}
    (decoded : codec.decode token context = .ok values)
    (nonempty : values.isEmpty = false) :
    (ofCodec codec .fresh).setToken token context =
      .ok (ofCodec codec (.seeded token values)) := by
  have unread : (ofCodec codec .fresh).strategy.readOwn? token context = none :=
    rfl
  exact setToken_of_fresh rfl
    ((decode_of_readOwn?_eq_none unread).trans decoded) nonempty

section Apply

variable {σ : Type} [Queryable σ] {handler : Handler}

theorem applyTo_of_fresh (fresh : handler.state = .fresh) {query : σ}
    (typed : (Queryable.elementType? query).isSome = true) (order : SortOrder)
    (parameterize : Bool) :
    handler.applyTo query order parameterize = .ok query := by
  have known := Option.isSome_iff_ne_none.mp typed
  simp [applyTo, fresh, TokenState.values?, known]

theorem applyTo_of_values {values : PropertyMap Value}
    (holds : handler.state.values? = some values) (query : σ)
    (order : SortOrder) (parameterize : Bool) :
    handler.applyTo query order parameterize =
      Keyset.applyTo query values order parameterize := by
  rw [applyTo, holds]
  split
  · rename_i untyped
    rw [Keyset.applyTo, if_pos untyped]
  · rfl

theorem applyTo_of_seeded (handler : Handler) (token : List Char)
    (values : PropertyMap Value) (query : σ) (order : SortOrder)
    (parameterize : Bool) :
    applyTo { handler with state := .seeded token values } query order
        parameterize =
      Keyset.applyTo query values order parameterize :=
  applyTo_of_values rfl query order parameterize

theorem applyTo_of_untyped {query : σ}
    (untyped : Queryable.elementType? query = none) (order : SortOrder)
    (parameterize : Bool) :
    handler.applyTo query order parameterize = .error .untypedQuery := by
  rw [applyTo, untyped]
  rfl

end Apply

theorem nextLink?_of_full {handler : Handler} {url : Uri.Url}
    {pageSize pageLength : Nat} {last : Entity} {context : PageContext}
    (full : ¬ pageLength < pageSize)
    (written : handler.strategy.token last context.model
      context.effectiveOrder? ≠ []) :
    handler.nextLink? url pageSize pageLength (some last) context =
      NextLink.after? url pageSize (handler.strategy.token last context.model
        context.effectiveOrder?) := by
  simp [nextLink?, full, written]

theorem nextLink?_of_short {handler : Handler} {url : Uri.Url}
    {pageSize pageLength : Nat} (short : pageLength < pageSize)
    (last? : Option Entity) (context : PageContext) :
    handler.nextLink? url pageSize pageLength last? context = none := by
  cases last? with
  | none => rfl
  | some last => simp [nextLink?, short]

end Handler

end KeysetPaging
