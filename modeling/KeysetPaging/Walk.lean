import KeysetPaging.Handler
import KeysetPaging.Query.Memory

/-!
# Walking a paged collection

An endpoint serves a list of records in pages.  Serving a request takes the
token from its URL, restricts the query to the records after it, and answers
with a page and the link to the next one.  A walk follows those links from a
first request on.
-/

namespace KeysetPaging

/-- A paged collection of records. -/
structure Endpoint (ρ : Type) where
  model : Model
  elementType? : Option String
  records : List ρ
  order : SortOrder
  pageSize : Nat
  parameterize : Bool := false

structure Page (ρ : Type) where
  records : List ρ
  next? : Option Uri.Url

namespace Endpoint

variable {ρ : Type} [Record ρ]

/-- What tokens are read against. -/
def tokenContext (endpoint : Endpoint ρ) : TokenContext :=
  ⟨endpoint.model, endpoint.elementType?⟩

/-- What next links are written with. -/
def pageContext (endpoint : Endpoint ρ) : PageContext where
  model := endpoint.model
  order? := some endpoint.order

def query (endpoint : Endpoint ρ) : MemoryQuery ρ :=
  (MemoryQuery.ofRecords endpoint.records).orderBy endpoint.order

/-- The handler after it takes the token of a request, if the request has
one. -/
def receive (endpoint : Endpoint ρ) (handler : Handler) (request : Uri.Url) :
    Except Error Handler :=
  match NextLink.tokenOf? request with
  | some token => handler.reset.setToken token endpoint.tokenContext
  | none => .ok handler.reset

/-- The records of the page that a handler answers with. -/
def answer (endpoint : Endpoint ρ) (handler : Handler) :
    Except Error (List ρ) := do
  let query ←
    handler.applyTo endpoint.query endpoint.order endpoint.parameterize
  (query.page endpoint.pageSize).mapError Error.invalidFilter

/-- The link after a page of records. -/
def link? (endpoint : Endpoint ρ) (handler : Handler) (request : Uri.Url)
    (records : List ρ) : Option Uri.Url :=
  handler.nextLink? request endpoint.pageSize records.length
    (records.getLast?.map Entity.ofRecord) endpoint.pageContext

def serve (endpoint : Endpoint ρ) (handler : Handler) (request : Uri.Url) :
    Except Error (Page ρ) := do
  let handler ← endpoint.receive handler request
  let records ← endpoint.answer handler
  .ok ⟨records, endpoint.link? handler request records⟩

/-- The pages from a request on, at most `limit` of them.  A walk ends at a page
without a next one, and at a request that fails. -/
def walk (endpoint : Endpoint ρ) (handler : Handler) :
    Nat → Uri.Url → List (Except Error (Page ρ))
  | 0, _ => []
  | limit + 1, request =>
      match endpoint.serve handler request with
      | .error fault => [.error fault]
      | .ok page =>
          match page.next? with
          | none => [.ok page]
          | some next => .ok page :: walk endpoint handler limit next

end Endpoint

end KeysetPaging
