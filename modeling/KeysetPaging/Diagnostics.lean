import KeysetPaging.Inspection
import KeysetPaging.Settings
import KeysetPaging.Walk

/-!
# Diagnostics

The events that operations on tokens may log, each list in the order of the work
it reports.  A function here takes the arguments of the operation it reports on,
and stops where that operation stops.
-/

namespace KeysetPaging

def Delimiters.loadEvents (layers : List Document) : List Event :=
  match load layers with
  | .error _ => []
  | .ok delimiters =>
      [{ level := .debug
         message := "Loaded skip token configuration"
         fields :=
           [ Event.textField "field_delimiter" [delimiters.field],
             Event.textField "property_delimiter" [delimiters.property] ] }]

namespace Codec

/-- What may be logged when a field of a token is passed over. -/
def droppedEvent (message : String) (piece : List Char) : Event where
  level := .debug
  message := message
  fields := [Event.textField "field" piece]

/-- What may be logged when fields are read, up to the first at fault. -/
def readEvents (model : Model) (elementType : String) :
    List Field → List Event
  | [] => []
  | .unvalued piece :: rest =>
      droppedEvent "Dropping skip token field without a value" piece ::
        readEvents model elementType rest
  | .blank piece :: rest =>
      droppedEvent "Dropping blank skip token field" piece ::
        readEvents model elementType rest
  | .usable name literal :: rest =>
      match readValue model elementType (String.ofList name) literal with
      | .ok _ => readEvents model elementType rest
      | .error _ => []

def decodeEvents (codec : Codec) (token : List Char) (context : TokenContext) :
    List Event :=
  match context.elementType? with
  | none => []
  | some elementType =>
      readEvents context.model elementType (codec.fields token)

end Codec

/-- What may be logged when a query is restricted by recorded values. -/
def Keyset.applyEvents (values : PropertyMap Value) (order : SortOrder)
    (parameterize : Bool) : List Event :=
  match predicate? values order parameterize with
  | none => []
  | some predicate =>
      [{ level := .trace
         message := "Applying skip token predicate"
         fields := [Event.textField "predicate" predicate.display.toList] }]

namespace NextLink

/-- The count of a top option that a page uses up. -/
def exhaustedTop? (pageSize : Nat) : Segment → Option Nat
  | .top _ count => if count ≤ pageSize then some count else none
  | _ => none

def linkEvents (url : Uri.Url) (pageSize : Nat) : List Event :=
  let segments := (Uri.querySegments (url.query?.getD [])).map readSegment
  match segments.findSome? (exhaustedTop? pageSize) with
  | none => []
  | some count =>
      [{ level := .debug
         message := "Top exhausted; no next page"
         fields :=
           [Event.countField "top" count,
            Event.countField "page_size" pageSize] }]

end NextLink

namespace Handler

def decodeEvents (handler : Handler) (token : List Char)
    (context : TokenContext) : List Event :=
  match handler.strategy.readOwn? token context with
  | some _ => []
  | none => handler.codec.decodeEvents token context

def decodedEvent (token : List Char) (context : TokenContext)
    (values : PropertyMap Value) : Event :=
  if values.isEmpty then
    { level := .warn
      message := "Skip token has no usable fields; ignoring it"
      fields := [Event.textField "token" token] }
  else
    { level := .debug
      message := "Skip token decoded"
      fields :=
        [ Event.textField "token" token,
          Event.countField "fields" values.size,
          Event.textField "element_type"
            (context.elementType?.getD "").toList ] }

def setTokenEvents (handler : Handler) (token : List Char)
    (context : TokenContext) : List Event :=
  if handler.state.isSeeded || context.elementType?.isNone then []
  else
    handler.decodeEvents token context ++
      match handler.decode token context with
      | .error _ => []
      | .ok values => [decodedEvent token context values]

/-- What may be logged when a handler restricts a query of a known element
type. -/
def applyEvents (handler : Handler) (order : SortOrder) (parameterize : Bool) :
    List Event :=
  match handler.state.values? with
  | none => []
  | some values => Keyset.applyEvents values order parameterize

/-- What may be logged when the link after a page is written. -/
def linkEvents (handler : Handler) (url : Uri.Url) (pageSize pageLength : Nat)
    (last? : Option Entity) (context : PageContext) : List Event :=
  match last? with
  | none => []
  | some last =>
      if pageLength < pageSize then []
      else
        let order? := context.effectiveOrder?
        let missing : Event :=
          { level := .debug
            message := "No skip token for last entity; no next page"
            fields := [Event.textField "entity" (Inspection.entity last)] }
        handler.strategy.tokenEvents last context.model order? ++
          if (handler.strategy.token last context.model order?).isEmpty then
            [missing]
          else NextLink.linkEvents url pageSize

end Handler

namespace Endpoint

variable {ρ : Type} [Record ρ]

/-- What may be logged when a handler takes the token of a request. -/
def receiveEvents (endpoint : Endpoint ρ) (handler : Handler)
    (request : Uri.Url) : List Event :=
  match NextLink.tokenOf? request with
  | some token => handler.reset.setTokenEvents token endpoint.tokenContext
  | none => []

def serveEvents (endpoint : Endpoint ρ) (handler : Handler)
    (request : Uri.Url) : List Event :=
  endpoint.receiveEvents handler request ++
    match endpoint.receive handler request with
    | .error _ => []
    | .ok handler =>
        handler.applyEvents endpoint.order endpoint.parameterize ++
          match endpoint.answer handler with
          | .error _ => []
          | .ok records =>
              handler.linkEvents request endpoint.pageSize records.length
                (records.getLast?.map Entity.ofRecord) endpoint.pageContext

def walkEvents (endpoint : Endpoint ρ) (handler : Handler) :
    Nat → Uri.Url → List Event
  | 0, _ => []
  | limit + 1, request =>
      endpoint.serveEvents handler request ++
        match endpoint.serve handler request with
        | .error _ => []
        | .ok page =>
            match page.next? with
            | none => []
            | some next => walkEvents endpoint handler limit next

end Endpoint

end KeysetPaging
