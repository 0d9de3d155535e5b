import KeysetPaging.Keyset
import KeysetPaging.NextLink
import KeysetPaging.Token.Strategy

/-!
# Token handlers

A handler serves one request.  It takes the token of the request once, restricts
any number of queries to the entities after it, and writes the link to the next
page.  Without a token, or with one that records nothing, queries stay as they
are.

The strategy is asked first whether a token is one of its own; all others are
read by the token grammar, with the delimiters that the strategy writes.
-/

namespace KeysetPaging

/-- The token of a request, as far as it is known. -/
inductive TokenState where
  | fresh
  /-- A token and the values it records. -/
  | seeded (token : List Char) (values : PropertyMap Value)

namespace TokenState

def token? : TokenState → Option (List Char)
  | .fresh => none
  | .seeded token _ => some token

def values? : TokenState → Option (PropertyMap Value)
  | .fresh => none
  | .seeded _ values => some values

def isSeeded (state : TokenState) : Bool :=
  state.token?.isSome

end TokenState

/-- What is known of the page being written: the model, the order of the page,
and, when the page is an expanded navigation property, the order of that. -/
structure PageContext where
  model : Model
  order? : Option SortOrder := none
  expanded? : Option (Option SortOrder) := none

namespace PageContext

/-- The order of the page being written.  That of an expanded navigation
property takes the place of the outer one even if it has none. -/
def effectiveOrder? (context : PageContext) : Option SortOrder :=
  match context.expanded? with
  | some order? => order?
  | none => context.order?

end PageContext

/-- A handler of one request. -/
structure Handler where
  codec : Codec
  strategy : Strategy
  state : TokenState := .fresh

namespace Handler

/-- The handler with the default delimiters and the default strategy. -/
def default : Handler where
  codec := .default
  strategy := .default .default

instance : Inhabited Handler := ⟨default⟩

/-- A handler with a strategy of one's own, which must not write other
delimiters than the handler reads. -/
def withStrategy (delimiters : Delimiters) (strategy : Strategy) :
    Except Error Handler :=
  match strategy.delimiters? with
  | some written =>
      if written = delimiters then
        (Codec.ofDelimiters delimiters).map fun codec => { codec, strategy }
      else .error (.invalidDelimiters (.disagreeing written delimiters))
  | none => (Codec.ofDelimiters delimiters).map fun codec => { codec, strategy }

def ofDelimiters (delimiters : Delimiters) : Except Error Handler := do
  let codec ← Codec.ofDelimiters delimiters
  withStrategy delimiters (.default codec)

/-- The values a token records, whatever token the handler has. -/
def decode (handler : Handler) (token : List Char) (context : TokenContext) :
    Except Error (PropertyMap Value) :=
  if context.elementType?.isNone then .error .contextUnbound
  else match handler.strategy.readOwn? token context with
    | some values => .ok values
    | none => handler.codec.decode token context

/-- The handler after it takes the token of its request.  It takes one only,
and ignores a token that records nothing. -/
def setToken (handler : Handler) (token : List Char) (context : TokenContext) :
    Except Error Handler :=
  if handler.state.isSeeded then .error .tokenAlreadySet
  else do
    let values ← handler.decode token context
    if values.isEmpty then .ok handler
    else .ok { handler with state := .seeded token values }

def reset (handler : Handler) : Handler :=
  { handler with state := .fresh }

/-- A query restricted to the entities after the token of the request. -/
def applyTo {σ : Type} [Queryable σ] (handler : Handler) (query : σ)
    (order : SortOrder) (parameterize : Bool) : Except Error σ :=
  if (Queryable.elementType? query).isNone then .error .untypedQuery
  else match handler.state.values? with
    | some values => Keyset.applyTo query values order parameterize
    | none => .ok query

/-- The link to the page after one that ends at `last`.  There is none after an
empty or a short page, after a page that cannot be resumed, or when the request
asked for no more entities. -/
def nextLink? (handler : Handler) (url : Uri.Url) (pageSize pageLength : Nat)
    (last? : Option Entity) (context : PageContext) : Option Uri.Url :=
  match last? with
  | none => none
  | some last =>
      if pageLength < pageSize then none
      else
        let token :=
          handler.strategy.token last context.model context.effectiveOrder?
        if token.isEmpty then none else NextLink.after? url pageSize token

end Handler

end KeysetPaging
