import KeysetPaging.Proofs.Endpoint
import KeysetPaging.Proofs.Handler
import KeysetPaging.Proofs.LinkChain

/-!
# Every record once

A walk from a first request visits every record of an endpoint, each once and in
the order of the query, and then ends.  The invariant of the walk is that the
request of a page carries the token of the record before it, so that what is
still to come is the rest of the sorted records behind that one.
-/

namespace KeysetPaging

namespace Endpoint

open MemoryQuery

variable {ρ : Type} [Record ρ]

def pageAt (endpoint : Endpoint ρ) (position : Nat) : List ρ :=
  (endpoint.sorted.drop position).take endpoint.pageSize

theorem length_pageAt {endpoint : Endpoint ρ} {position : Nat}
    (full : endpoint.pageSize ≤ endpoint.records.length - position) :
    (endpoint.pageAt position).length = endpoint.pageSize := by
  rw [pageAt, List.length_take, List.length_drop, length_sorted]
  omega

/-- A request stands at a position of the sorted records when it carries the
token of the record before that position, and no token at the first one. -/
structure StandsAt (endpoint : Endpoint ρ) (token : ρ → List Char)
    (position : Nat) (request : Uri.Url) : Prop where
  unlimited : NextLink.Unlimited request
  token_eq : match position with
    | 0 => NextLink.tokenOf? request = none
    | index + 1 => ∃ last, endpoint.sorted[index]? = some last ∧
        NextLink.tokenOf? request = some (token last)

/-- A handler carries on from every record of an endpoint: it writes a token for
the page that ends there, and restricted by what it reads from that token the
query lists the records behind. -/
structure CarriesOn (endpoint : Endpoint ρ) (handler : Handler)
    (token : ρ → List Char) : Prop where
  pageSize_pos : 0 < endpoint.pageSize
  writes : ∀ record ∈ endpoint.records,
    handler.strategy.token (Entity.ofRecord record) endpoint.model
      (some endpoint.order) = token record
  token_nonempty : ∀ record ∈ endpoint.records, token record ≠ []
  reads : ∀ index last, endpoint.sorted[index]? = some last →
    ∃ values restricted,
      handler.decode (token last) endpoint.tokenContext = .ok values ∧
        values.isEmpty = false ∧
        Keyset.applyTo endpoint.query values endpoint.order
          endpoint.parameterize = .ok restricted ∧
        restricted.execute = .ok (endpoint.sorted.drop (index + 1))

omit [Record ρ] in
theorem receive_of_decoded {endpoint : Endpoint ρ} {handler : Handler}
    {request : Uri.Url} {token : List Char} {values : PropertyMap Value}
    (carried : NextLink.tokenOf? request = some token)
    (decoded : handler.decode token endpoint.tokenContext = .ok values)
    (nonempty : values.isEmpty = false) :
    endpoint.receive handler request =
      .ok { handler with state := .seeded token values } := by
  have fresh : handler.reset.state = .fresh := rfl
  rw [receive, carried]
  exact Handler.setToken_of_fresh fresh decoded nonempty

theorem answer_fresh {endpoint : Endpoint ρ} {handler : Handler}
    (fresh : handler.state = .fresh) :
    endpoint.answer handler = .ok (endpoint.pageAt 0) := by
  have isTyped : (Queryable.elementType? endpoint.query).isSome = true := rfl
  rw [answer, Handler.applyTo_of_fresh fresh isTyped, Fallible.ok_bind,
    MemoryQuery.page, execute_query]
  rfl

theorem link?_of_end {endpoint : Endpoint ρ} {position : Nat}
    (handler : Handler) (request : Uri.Url)
    (reached : endpoint.records.length - position < endpoint.pageSize) :
    endpoint.link? handler request (endpoint.pageAt position) = none := by
  refine Handler.nextLink?_of_short ?_ _ _
  rw [pageAt, List.length_take, List.length_drop, length_sorted]
  omega

namespace CarriesOn

variable {endpoint : Endpoint ρ} {handler : Handler} {token : ρ → List Char}
  {position : Nat} {request : Uri.Url}

theorem exists_answer (carriesOn : endpoint.CarriesOn handler token)
    (stands : endpoint.StandsAt token position request) :
    ∃ received,
      endpoint.receive handler request = .ok received ∧
        received.strategy = handler.strategy ∧
          endpoint.answer received = .ok (endpoint.pageAt position) := by
  have carried := stands.token_eq
  cases position with
  | zero =>
      refine ⟨handler.reset, ?_, rfl, answer_fresh rfl⟩
      rw [receive, carried]
  | succ index =>
      obtain ⟨last, found, carried⟩ := carried
      obtain ⟨values, restricted, decoded, nonempty, applied, executed⟩ :=
        carriesOn.reads index last found
      refine ⟨_, receive_of_decoded carried decoded nonempty, rfl, ?_⟩
      rw [answer, Handler.applyTo_of_seeded, applied, Fallible.ok_bind,
        MemoryQuery.page, executed]
      rfl

/-- A page before the end is full, and the link after it stands behind it. -/
theorem exists_link? (carriesOn : endpoint.CarriesOn handler token)
    {received : Handler} (same : received.strategy = handler.strategy)
    (unlimited : NextLink.Unlimited request)
    (full : endpoint.pageSize ≤ endpoint.records.length - position) :
    ∃ next,
      endpoint.link? received request (endpoint.pageAt position) = some next ∧
        endpoint.StandsAt token (position + endpoint.pageSize) next := by
  have size : (endpoint.pageAt position).length = endpoint.pageSize :=
    length_pageAt full
  obtain ⟨before, positive⟩ : ∃ before, endpoint.pageSize = before + 1 :=
    Nat.exists_eq_add_one.mpr carriesOn.pageSize_pos
  have inside : position + before < endpoint.sorted.length := by
    rw [length_sorted]
    omega
  have found : endpoint.sorted[position + before]? =
      some endpoint.sorted[position + before] := List.getElem?_eq_getElem inside
  generalize endpoint.sorted[position + before] = last at found
  have lastOfPage : (endpoint.pageAt position).getLast? = some last := by
    rw [List.getLast?_eq_getElem?, size, positive, Nat.add_sub_cancel, pageAt,
      List.getElem?_take_of_lt (by omega), List.getElem?_drop, found]
  have member : last ∈ endpoint.records :=
    mem_sorted.mp (List.mem_of_getElem? found)
  obtain ⟨next, linked, stillUnlimited⟩ :=
    NextLink.exists_after?_of_unlimited unlimited endpoint.pageSize (token last)
  have written : received.strategy.token (Entity.ofRecord last)
      endpoint.pageContext.model endpoint.pageContext.effectiveOrder? =
        token last := by
    rw [same]
    exact carriesOn.writes last member
  refine ⟨next, ?_, stillUnlimited, ?_⟩
  · rw [link?, lastOfPage, Option.map_some, Handler.nextLink?_of_full, written]
    · exact linked
    · rw [size]
      exact Nat.lt_irrefl _
    · rw [written]
      exact carriesOn.token_nonempty last member
  · rw [positive]
    exact ⟨last, found, NextLink.tokenOf?_of_after? linked⟩

/-- Serving a request that stands at a position before the end gives the page
there and a request that stands behind it. -/
theorem exists_serve (carriesOn : endpoint.CarriesOn handler token)
    (stands : endpoint.StandsAt token position request)
    (full : endpoint.pageSize ≤ endpoint.records.length - position) :
    ∃ next,
      endpoint.serve handler request =
          .ok ⟨endpoint.pageAt position, some next⟩ ∧
        endpoint.StandsAt token (position + endpoint.pageSize) next := by
  obtain ⟨received, receives, same, answers⟩ := carriesOn.exists_answer stands
  obtain ⟨next, linked, standsNext⟩ :=
    carriesOn.exists_link? same stands.unlimited full
  refine ⟨next, ?_, standsNext⟩
  rw [serve, receives, Fallible.ok_bind, answers, Fallible.ok_bind, linked]

theorem serve_of_end (carriesOn : endpoint.CarriesOn handler token)
    (stands : endpoint.StandsAt token position request)
    (reached : endpoint.records.length - position < endpoint.pageSize) :
    endpoint.serve handler request =
      .ok ⟨endpoint.pageAt position, none⟩ := by
  obtain ⟨received, receives, _, answers⟩ := carriesOn.exists_answer stands
  rw [serve, receives, Fallible.ok_bind, answers, Fallible.ok_bind,
    link?_of_end _ _ reached]

end CarriesOn

/-- Pages that hold the sorted records from a position on, all but the last of
them full. -/
structure PagesFrom (endpoint : Endpoint ρ) (position : Nat)
    (pages : List (Page ρ)) : Prop where
  length_eq : pages.length =
    (endpoint.records.length - position) / endpoint.pageSize + 1
  full : ∀ page ∈ pages.dropLast, page.records.length = endpoint.pageSize
  flatten_eq : (pages.map Page.records).flatten =
    endpoint.sorted.drop position

namespace PagesFrom

variable {endpoint : Endpoint ρ} {position : Nat}

theorem singleton (next? : Option Uri.Url)
    (reached : endpoint.records.length - position < endpoint.pageSize) :
    endpoint.PagesFrom position [⟨endpoint.pageAt position, next?⟩] where
  length_eq := by rw [Nat.div_eq_of_lt reached, List.length_singleton]
  full := by simp
  flatten_eq := by
    have rest : (endpoint.sorted.drop position).length ≤ endpoint.pageSize := by
      rw [List.length_drop, length_sorted]
      exact Nat.le_of_lt reached
    simp [pageAt, List.take_of_length_le rest]

theorem cons {pages : List (Page ρ)} (next? : Option Uri.Url)
    (positive : 0 < endpoint.pageSize)
    (full : endpoint.pageSize ≤ endpoint.records.length - position)
    (rest : endpoint.PagesFrom (position + endpoint.pageSize) pages) :
    endpoint.PagesFrom position
      (⟨endpoint.pageAt position, next?⟩ :: pages) where
  length_eq := by
    rw [List.length_cons, rest.length_eq, Nat.div_eq_sub_div positive full,
      Nat.sub_add_eq]
  full := by
    have nonempty : pages ≠ [] := by
      rintro rfl
      cases rest.length_eq
    intro page member
    rw [List.dropLast_cons_of_ne_nil nonempty] at member
    rcases List.mem_cons.mp member with rfl | inRest
    · exact length_pageAt full
    · exact rest.full page inRest
  flatten_eq := by
    rw [List.map_cons, List.flatten_cons, rest.flatten_eq, pageAt,
      ← List.drop_drop, List.take_append_drop]

end PagesFrom

/-- A walk from a request that stands at a position visits the records from
there on. -/
theorem CarriesOn.exists_walk {endpoint : Endpoint ρ} {handler : Handler}
    {token : ρ → List Char} (carriesOn : endpoint.CarriesOn handler token)
    {limit position : Nat} {request : Uri.Url}
    (stands : endpoint.StandsAt token position request)
    (enough : (endpoint.records.length - position) / endpoint.pageSize <
      limit) :
    ∃ pages,
      endpoint.walk handler limit request = pages.map Except.ok ∧
        endpoint.PagesFrom position pages := by
  induction limit generalizing position request with
  | zero => exact absurd enough (Nat.not_lt_zero _)
  | succ limit induction =>
      rcases Nat.lt_or_ge (endpoint.records.length - position)
          endpoint.pageSize with reached | full
      · have served := carriesOn.serve_of_end stands reached
        refine ⟨_, ?_, .singleton none reached⟩
        rw [walk, served]
        rfl
      · obtain ⟨next, served, standsNext⟩ := carriesOn.exists_serve stands full
        have fewer : (endpoint.records.length - (position + endpoint.pageSize)) /
            endpoint.pageSize < limit := by
          rw [Nat.div_eq_sub_div carriesOn.pageSize_pos full] at enough
          rw [Nat.sub_add_eq]
          exact Nat.lt_of_succ_lt_succ enough
        obtain ⟨pages, walked, pagesFrom⟩ := induction standsNext fewer
        refine ⟨_, ?_, .cons (some next) carriesOn.pageSize_pos full pagesFrom⟩
        rw [walk, served]
        simp only [walked, List.map_cons]

namespace Pageable

variable {endpoint : Endpoint ρ} {codec : Codec} {type : EntityType}

theorem carriesOn (pageable : endpoint.Pageable codec type)
    (state : TokenState) :
    endpoint.CarriesOn (.ofCodec codec state)
      (endpoint.tokenAfter codec type) where
  pageSize_pos := pageable.pageSize_pos
  writes _ member := pageable.defaultToken_eq member
  token_nonempty _ _ :=
    codec.encode_ne_nil _ pageable.resumable.names_nonempty
  reads := by
    intro index last found
    have member : last ∈ endpoint.records :=
      mem_sorted.mp (List.mem_of_getElem? found)
    obtain ⟨values, decoded, names, records⟩ :=
      pageable.exists_decode_tokenAfter member
    obtain ⟨restricted, applied, executed⟩ :=
      pageable.resumable.exists_execute_applyTo member names records
    rw [pageable.resumable.filter_sorted pageable.ties_ascend found] at executed
    have unread : (Handler.ofCodec codec state).strategy.readOwn?
        (endpoint.tokenAfter codec type last) endpoint.tokenContext = none :=
      rfl
    exact ⟨values, restricted,
      (Handler.decode_of_readOwn?_eq_none unread).trans decoded,
      pageable.resumable.isEmpty_eq_false_of_names names, applied, executed⟩

end Pageable

structure Player where
  number : Int64
  score? : Option Int64

instance : Record Player where
  typeName := "demo::Player"
  property? player name :=
    if name = "id" then some (.ofInt64 player.number)
    else if name = "score" then player.score?.map .ofInt64
    else none

def playerType : EntityType :=
  (EntityType.new "Game" "Player")
    |>.key "id" .int64
    |>.property "score" .int64

/-- Players from the highest score down, two on a page.  Its pages end between
players of one score, between players without a score, and at the last player. -/
def leaderboard : Endpoint Player where
  model := (Model.empty.add (.entity playerType)).bind "demo::Player"
    "Game.Player"
  elementType? := some "demo::Player"
  records := [⟨1, none⟩, ⟨2, some 5⟩, ⟨3, none⟩, ⟨4, some 7⟩, ⟨5, some 5⟩,
    ⟨6, none⟩]
  order := [⟨"score", .descending, false⟩]
  pageSize := 2

def leaderboardUrl : Uri.Url where
  scheme := "https".toList
  authority? := some ⟨none, "example.com".toList, none⟩
  path := "/players".toList
  query? := some "game=1&$skip=0".toList
  fragment? := none
  query_kept := by
    rintro query ⟨⟩
    exact List.all_iff_forall_prop.mp (by decide)

theorem eq_of_mem_tokenNames_leaderboard {name : String}
    (recorded : name ∈ leaderboard.tokenNames playerType) :
    name = "score" ∨ name = "id" := by
  have names : leaderboard.tokenNames playerType = ["score", "id"] := by decide
  rw [names] at recorded
  simpa using recorded

theorem pageable_leaderboard :
    leaderboard.Pageable .default playerType where
  pageSize_pos := by decide
  element_type := ⟨"demo::Player", rfl, rfl⟩
  record_type := fun _ _ => rfl
  order_static := by decide
  order_distinct := by decide
  keys_nonempty := by decide
  keys_distinguish := by decide
  one_kind := by
    intro name recorded
    refine ⟨.number, ?_⟩
    revert name
    decide
  ties_ascend := by decide
  nameable := by
    intro name recorded
    rcases eq_of_mem_tokenNames_leaderboard recorded with rfl | rfl
    · exact ⟨by decide, by decide, by decide⟩
    · exact ⟨by decide, by decide, by decide⟩
  recordable := by
    intro record _ name recorded
    rcases eq_of_mem_tokenNames_leaderboard recorded with rfl | rfl
    · obtain ⟨number, _ | score⟩ := record
      · trivial
      · trivial
    · trivial

theorem unlimited_leaderboardUrl : NextLink.Unlimited leaderboardUrl := by
  have pieces : leaderboardUrl.pieces = ["game=1".toList, "$skip=0".toList] := by
    decide
  intro text listed rawName count
  rw [pieces] at listed
  have either : text = "game=1".toList ∨ text = "$skip=0".toList := by
    simpa using listed
  rcases either with rfl | rfl
  · have read : NextLink.readSegment "game=1".toList =
        .kept "game=1".toList := by
      decide
    rw [read]
    exact NextLink.Segment.noConfusion
  · have read : NextLink.readSegment "$skip=0".toList = .dropped := by decide
    rw [read]
    exact NextLink.Segment.noConfusion

end Endpoint

end KeysetPaging
