import KeysetPaging.Proofs.Handler

/-!
# Sessions

A handler serves the calls of a session in any order, and is reset between
requests.  Its only memory is the token that it holds, and that is always the
first one that it took since the last reset: further tokens are refused, tokens
that fail or record nothing pass it by, and no other call touches it.

Which call took a token is told from the answers to the calls, so the laws below
tie what a handler holds to what its callers were told.  They hold of every
strategy, one that reads tokens of its own as empty records included.
-/

namespace KeysetPaging

/-- A call to a handler with its arguments. -/
inductive Call : Type 1 where
  | setToken (token : List Char) (context : TokenContext)
  | decode (token : List Char) (context : TokenContext)
  | reset
  | applyTo {σ : Type} [Queryable σ] (query : σ) (order : SortOrder)
      (parameterize : Bool)
  | nextLink (url : Uri.Url) (pageSize pageLength : Nat)
      (last? : Option Entity) (context : PageContext)

namespace Call

/-- What a call is answered with. -/
def Answer : Call → Type
  | .setToken .. => Except Error Unit
  | .decode .. => Except Error (PropertyMap Value)
  | .reset => Unit
  | @applyTo σ .. => Except Error σ
  | .nextLink .. => Option Uri.Url

end Call

namespace TokenState

theorem isSeeded_eq_true_iff {state : TokenState} :
    state.isSeeded = true ↔ ∃ token values, state = .seeded token values := by
  cases state with
  | fresh => simp [isSeeded, token?]
  | seeded token values => simp [isSeeded, token?]

theorem isSeeded_eq_false_iff {state : TokenState} :
    state.isSeeded = false ↔ state = .fresh := by
  cases state with
  | fresh => simp [isSeeded, token?]
  | seeded token values => simp [isSeeded, token?]

end TokenState

namespace Handler

/-- The answer to a call, and the handler after it. -/
def call (handler : Handler) : (call : Call) → call.Answer × Handler
  | .setToken token context =>
      match handler.setToken token context with
      | .ok next => (.ok (), next)
      | .error fault => (.error fault, handler)
  | .decode token context => (handler.decode token context, handler)
  | .reset => ((), handler.reset)
  | @Call.applyTo _ _ query order parameterize =>
      (handler.applyTo query order parameterize, handler)
  | .nextLink url pageSize pageLength last? context =>
      (handler.nextLink? url pageSize pageLength last? context, handler)

/-- The handler after calls. -/
def after (handler : Handler) (calls : List Call) : Handler :=
  calls.foldl (fun handler call => (handler.call call).2) handler

@[simp] theorem after_nil (handler : Handler) : handler.after [] = handler := rfl

@[simp] theorem after_append_singleton (handler : Handler) (calls : List Call)
    (call : Call) :
    handler.after (calls ++ [call]) = ((handler.after calls).call call).2 := by
  simp [after]

/-- A call that takes the token of a request: it succeeds, and the token records
something. -/
structure Takes (handler : Handler) (token : List Char) (context : TokenContext)
    (values : PropertyMap Value) : Prop where
  answered : (handler.call (.setToken token context)).1 = .ok ()
  decoded : handler.decode token context = .ok values
  nonempty : values.isEmpty = false

/-- The call that comes after some others took a token, and no reset followed. -/
def TookAfter (handler : Handler) (calls before : List Call)
    (token : List Char) (values : PropertyMap Value) : Prop :=
  ∃ context later, calls = before ++ .setToken token context :: later ∧
    .reset ∉ later ∧ (handler.after before).Takes token context values

/-- Some call since the last reset took a token. -/
def TookSinceReset (handler : Handler) (calls : List Call) : Prop :=
  ∃ before token values, handler.TookAfter calls before token values

/-- The first call since the last reset that took a token took this one. -/
def TookFirst (handler : Handler) (calls : List Call) (token : List Char)
    (values : PropertyMap Value) : Prop :=
  ∃ before, handler.TookAfter calls before token values ∧
    ¬ handler.TookSinceReset before

/-- A call that gives a handler no reason to change. -/
def Idle (handler : Handler) : Call → Prop
  | .setToken token context =>
      handler.state.isSeeded = true ∨
        (∃ fault, (handler.call (.setToken token context)).1 = .error fault) ∨
          ∃ values, handler.decode token context = .ok values ∧
            values.isEmpty = true
  | .reset => False
  | _ => True

/-- Setting a token fails, changes nothing, or seeds a fresh handler. -/
theorem setToken_cases (handler : Handler) (token : List Char)
    (context : TokenContext) :
    (handler.state.isSeeded = true ∧
        handler.setToken token context = .error .tokenAlreadySet) ∨
      (handler.state = .fresh ∧
        ((∃ fault, handler.decode token context = .error fault ∧
            handler.setToken token context = .error fault) ∨
          (∃ values, handler.decode token context = .ok values ∧
            values.isEmpty = true ∧
              handler.setToken token context = .ok handler) ∨
          (∃ values, handler.decode token context = .ok values ∧
            values.isEmpty = false ∧
              handler.setToken token context =
                .ok { handler with state := .seeded token values }))) := by
  cases state : handler.state with
  | seeded held values =>
      refine .inl ⟨rfl, ?_⟩
      simp [setToken, state, TokenState.isSeeded, TokenState.token?]
  | fresh =>
      refine .inr ⟨rfl, ?_⟩
      cases decoded : handler.decode token context with
      | error fault =>
          refine .inl ⟨fault, rfl, ?_⟩
          simp [setToken, state, TokenState.isSeeded, TokenState.token?, decoded]
      | ok values =>
          cases empty : values.isEmpty with
          | true =>
              refine .inr (.inl ⟨values, rfl, empty, ?_⟩)
              simp [setToken, state, TokenState.isSeeded, TokenState.token?,
                decoded, empty]
          | false =>
              refine .inr (.inr ⟨values, rfl, empty, ?_⟩)
              simp [setToken, state, TokenState.isSeeded, TokenState.token?,
                decoded, empty]

/-- What a call can do to a handler: reset it, leave it alone, or have it take a
token. -/
theorem call_cases (handler : Handler) (call : Call) :
    (call = .reset ∧ (handler.call call).2 = handler.reset) ∨
      (call ≠ .reset ∧ (handler.call call).2 = handler ∧
        ∀ token context values, call = .setToken token context →
          ¬ handler.Takes token context values) ∨
      ∃ token context values, call = .setToken token context ∧
        handler.state = .fresh ∧ handler.Takes token context values ∧
          (handler.call call).2 =
            { handler with state := .seeded token values } := by
  cases call with
  | reset => exact .inl ⟨rfl, rfl⟩
  | setToken token context =>
      rcases handler.setToken_cases token context with
        ⟨_, failed⟩ | ⟨fresh, ⟨fault, _, failed⟩ | ⟨values, decoded, empty, ignored⟩ |
          ⟨values, decoded, nonempty, taken⟩⟩
      · refine .inr (.inl ⟨Call.noConfusion, by simp [call, failed], ?_⟩)
        rintro _ _ values ⟨⟩ takes
        have answered := takes.answered
        simp [call, failed] at answered
      · refine .inr (.inl ⟨Call.noConfusion, by simp [call, failed], ?_⟩)
        rintro _ _ values ⟨⟩ takes
        have answered := takes.answered
        simp [call, failed] at answered
      · refine .inr (.inl ⟨Call.noConfusion, by simp [call, ignored], ?_⟩)
        rintro _ _ others ⟨⟩ takes
        have same := takes.decoded
        have nonempty := takes.nonempty
        rw [decoded] at same
        cases same
        rw [empty] at nonempty
        cases nonempty
      · refine .inr (.inr ⟨token, context, values, rfl, fresh, ?_, ?_⟩)
        · exact ⟨by rw [call, taken], decoded, nonempty⟩
        · simp [call, taken]
  | decode | applyTo | nextLink =>
      exact .inr (.inl ⟨Call.noConfusion, rfl, fun _ _ _ => Call.noConfusion⟩)

theorem call_of_idle {handler : Handler} {call : Call}
    (idle : handler.Idle call) : (handler.call call).2 = handler := by
  rcases handler.call_cases call with
    ⟨rfl, _⟩ | ⟨_, unchanged, _⟩ |
      ⟨token, context, values, rfl, fresh, takes, _⟩
  · exact idle.elim
  · exact unchanged
  · exfalso
    rcases idle with seeded | ⟨fault, failed⟩ | ⟨others, decoded, empty⟩
    · rw [fresh] at seeded
      cases seeded
    · rw [takes.answered] at failed
      cases failed
    · rw [takes.decoded] at decoded
      cases decoded
      rw [takes.nonempty] at empty
      cases empty

theorem call_keeps (handler : Handler) (call : Call) :
    (handler.call call).2.codec = handler.codec ∧
      (handler.call call).2.strategy = handler.strategy := by
  rcases handler.call_cases call with
    ⟨_, reset⟩ | ⟨_, unchanged, _⟩ | ⟨_, _, _, _, _, _, taken⟩
  · rw [reset]
    exact ⟨rfl, rfl⟩
  · rw [unchanged]
    exact ⟨rfl, rfl⟩
  · rw [taken]
    exact ⟨rfl, rfl⟩

theorem after_keeps (handler : Handler) (calls : List Call) :
    (handler.after calls).codec = handler.codec ∧
      (handler.after calls).strategy = handler.strategy := by
  induction calls using List.reverseRecOn with
  | nil => exact ⟨rfl, rfl⟩
  | append_singleton calls call induction =>
      obtain ⟨codec, strategy⟩ := call_keeps (handler.after calls) call
      rw [after_append_singleton, codec, strategy]
      exact induction

/-- A further call leaves it open which call took a token, unless it is a reset
or takes one itself. -/
theorem tookAfter_append_singleton_iff {handler : Handler}
    {calls before : List Call} {call : Call} {token : List Char}
    {values : PropertyMap Value} :
    handler.TookAfter (calls ++ [call]) before token values ↔
      (call ≠ .reset ∧ handler.TookAfter calls before token values) ∨
        (before = calls ∧ ∃ context, call = .setToken token context ∧
          (handler.after calls).Takes token context values) := by
  constructor
  · rintro ⟨context, later, split, unreset, takes⟩
    rcases List.eq_nil_or_concat later with rfl | ⟨earlier, last, rfl⟩
    · obtain ⟨rfl, same⟩ := List.append_inj' split rfl
      cases same
      exact .inr ⟨rfl, context, rfl, takes⟩
    · rw [List.concat_eq_append] at split unreset
      rw [← List.cons_append, ← List.append_assoc] at split
      obtain ⟨rfl, same⟩ := List.append_inj' split rfl
      cases same
      refine .inl ⟨?_, context, earlier, rfl, ?_, takes⟩
      · rintro rfl
        exact unreset (by simp)
      · exact fun member => unreset (List.mem_append_left _ member)
  · rintro (⟨other, context, later, rfl, unreset, takes⟩ |
      ⟨rfl, context, rfl, takes⟩)
    · refine ⟨context, later ++ [call], by simp, ?_, takes⟩
      intro member
      rcases List.mem_append.mp member with inLater | last
      · exact unreset inLater
      · exact other (List.mem_singleton.mp last).symm
    · exact ⟨context, [], rfl, List.not_mem_nil, takes⟩

section Fresh

variable {handler : Handler} (fresh : handler.state = .fresh)

include fresh in
theorem isSeeded_after_iff (calls : List Call) :
    (handler.after calls).state.isSeeded = true ↔
      handler.TookSinceReset calls := by
  induction calls using List.reverseRecOn with
  | nil =>
      rw [after_nil, fresh]
      refine iff_of_false Bool.false_ne_true ?_
      rintro ⟨before, token, values, context, later, split, _⟩
      simp at split
  | append_singleton calls call induction =>
      rw [after_append_singleton]
      simp only [TookSinceReset, tookAfter_append_singleton_iff]
      rcases (handler.after calls).call_cases call with
        ⟨rfl, reset⟩ | ⟨other, unchanged, untaken⟩ |
          ⟨token, context, values, rfl, _, takes, taken⟩
      · rw [reset]
        refine iff_of_false Bool.false_ne_true ?_
        rintro ⟨before, token, values, ⟨absurd, _⟩ | ⟨_, _, same, _⟩⟩
        · exact absurd rfl
        · cases same
      · rw [unchanged, induction]
        constructor
        · rintro ⟨before, token, values, took⟩
          exact ⟨before, token, values, .inl ⟨other, took⟩⟩
        · rintro ⟨before, token, values, ⟨_, took⟩ | ⟨_, context, same, takes⟩⟩
          · exact ⟨before, token, values, took⟩
          · exact absurd takes (untaken token context values same)
      · rw [taken]
        exact iff_of_true rfl
          ⟨calls, token, values, .inr ⟨rfl, context, rfl, takes⟩⟩

include fresh in
/-- A handler holds the first token that it took since it was last reset. -/
theorem tookFirst_of_after {calls : List Call} {token : List Char}
    {values : PropertyMap Value}
    (holds : (handler.after calls).state = .seeded token values) :
    values.isEmpty = false ∧ handler.TookFirst calls token values := by
  induction calls using List.reverseRecOn with
  | nil =>
      rw [after_nil, fresh] at holds
      cases holds
  | append_singleton calls call induction =>
      rw [after_append_singleton] at holds
      rcases (handler.after calls).call_cases call with
        ⟨_, reset⟩ | ⟨other, unchanged, _⟩ |
          ⟨_, context, _, rfl, stillFresh, takes, taken⟩
      · rw [reset] at holds
        cases holds
      · rw [unchanged] at holds
        obtain ⟨nonempty, before, took, first⟩ := induction holds
        refine ⟨nonempty, before, ?_, first⟩
        exact tookAfter_append_singleton_iff.mpr (.inl ⟨other, took⟩)
      · rw [taken] at holds
        cases holds
        refine ⟨takes.nonempty, calls, ?_, ?_⟩
        · exact tookAfter_append_singleton_iff.mpr
            (.inr ⟨rfl, context, rfl, takes⟩)
        · rw [← isSeeded_after_iff fresh, stillFresh]
          exact Bool.false_ne_true

end Fresh

/-- What holds of a handler after the calls of a session. -/
structure SessionLaws (handler : Handler) (calls : List Call) : Prop where
  delimiters_valid : (handler.after calls).codec.delimiters.Valid
  delimiters_eq : ∀ written,
    (handler.after calls).strategy.delimiters? = some written →
      (handler.after calls).codec.delimiters = written
  seeded_iff : (handler.after calls).state.isSeeded = true ↔
    handler.TookSinceReset calls
  holds_first : (handler.after calls).state.isSeeded = true →
    ∃ token values,
      (handler.after calls).state.token? = some token ∧
        (handler.after calls).state.values? = some values ∧
          values.isEmpty = false ∧ handler.TookFirst calls token values
  holds_nothing : (handler.after calls).state.isSeeded = false →
    (handler.after calls).state.token? = none ∧
      (handler.after calls).state.values? = none
  refuses_second : (handler.after calls).state.isSeeded = true →
    ∀ token context, ((handler.after calls).call (.setToken token context)).1 =
      .error .tokenAlreadySet
  unchanged_of_idle : ∀ call, (handler.after calls).Idle call →
    ((handler.after calls).call call).2 = handler.after calls
  decode_eq : ∀ state token context,
    { handler.after calls with state := state }.decode token context =
      handler.decode token context
  nextLink_eq : ∀ state url pageSize pageLength last? context,
    { handler.after calls with state := state }.nextLink? url pageSize
        pageLength last? context =
      handler.nextLink? url pageSize pageLength last? context
  applyTo_fresh : (handler.after calls).state.isSeeded = false →
    ∀ {σ : Type} [Queryable σ] (query : σ) order parameterize,
      (Queryable.elementType? query).isSome = true →
        (handler.after calls).applyTo query order parameterize = .ok query
  applyTo_seeded : ∀ values, (handler.after calls).state.values? = some values →
    ∀ {σ : Type} [Queryable σ] (query : σ) order parameterize,
      (handler.after calls).applyTo query order parameterize =
        Keyset.applyTo query values order parameterize
  applyTo_untyped : ∀ {σ : Type} [Queryable σ] (query : σ) order parameterize,
    Queryable.elementType? query = none →
      (handler.after calls).applyTo query order parameterize =
        .error .untypedQuery

/-- The laws of sessions hold of every handler and any calls to it. -/
theorem sessionLaws_of_isMade {handler : Handler} (made : handler.IsMade)
    (calls : List Call) : handler.SessionLaws calls := by
  have fresh := made.fresh
  obtain ⟨codec, strategy⟩ := handler.after_keeps calls
  exact {
    delimiters_valid := (handler.after calls).codec.valid
    delimiters_eq := by
      intro written reported
      rw [strategy] at reported
      rw [codec]
      exact made.delimiters_eq reported
    seeded_iff := isSeeded_after_iff fresh calls
    holds_first := by
      intro seeded
      obtain ⟨token, values, state⟩ := TokenState.isSeeded_eq_true_iff.mp seeded
      obtain ⟨nonempty, first⟩ := tookFirst_of_after fresh state
      exact ⟨token, values, by rw [state]; rfl, by rw [state]; rfl, nonempty,
        first⟩
    holds_nothing := by
      intro unseeded
      rw [TokenState.isSeeded_eq_false_iff.mp unseeded]
      exact ⟨rfl, rfl⟩
    refuses_second := by
      intro seeded token context
      rw [call, setToken, if_pos seeded]
    unchanged_of_idle := fun _ => call_of_idle
    decode_eq := by
      intro state token context
      rw [decode, decode, codec, strategy]
    nextLink_eq := by
      intro state url pageSize pageLength last? context
      cases last? with
      | none => rfl
      | some last => rw [nextLink?, nextLink?, strategy]
    applyTo_fresh := by
      intro unseeded σ _ query order parameterize typed
      have state := TokenState.isSeeded_eq_false_iff.mp unseeded
      exact applyTo_of_fresh state typed order parameterize
    applyTo_seeded := fun _ holds {_} => applyTo_of_values holds
    applyTo_untyped := by
      intro σ _ query order parameterize untyped
      exact applyTo_of_untyped untyped order parameterize }

/-- A strategy with a single token, which records nothing. -/
def silentStrategy : Strategy where
  token := fun _ _ _ => "silent".toList
  readOwn? token _ := if token = "silent".toList then some .empty else none

/-- Two requests: the second one carries tokens that are of no use, one that is
taken, and one that comes too late. -/
def twoRequests : List Call :=
  let context : TokenContext := ⟨.empty, some "Default.Person"⟩
  [.setToken "id:2".toList context, .decode "id:3".toList context, .reset,
    .setToken "silent".toList context, .setToken "id:?".toList context,
    .setToken "id:5".toList context, .setToken "id:7".toList context]

theorem sessionLaws_twoRequests :
    ∃ handler, Handler.withStrategy {} silentStrategy = .ok handler ∧
      handler.SessionLaws twoRequests ∧
        (handler.after twoRequests).state.token? = some "id:5".toList := by
  have built : Handler.withStrategy {} silentStrategy =
      .ok ⟨.default, silentStrategy, .fresh⟩ :=
    withStrategy_eq_ok_iff.mpr ⟨rfl, rfl, rfl, by rintro written ⟨⟩⟩
  refine ⟨_, built, sessionLaws_of_isMade (.withStrategy built) _, ?_⟩
  decide

end Handler
end KeysetPaging
