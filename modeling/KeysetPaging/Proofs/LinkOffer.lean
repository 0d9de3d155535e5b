import KeysetPaging.Proofs.LinkChain
import KeysetPaging.Proofs.LinkToken

/-!
# When a next link is offered

A page is followed by a link when there may be more behind it and it can be
resumed.  The handler sees whether the page has a last entity and is full, the
strategy whether the type of the entity is known and leaves something to record,
and the link whether the request asks for more.  A strategy says that a page
cannot be resumed by writing an empty token, so nothing is missed only because a
token that records something is never empty.
-/

namespace KeysetPaging

namespace Strategy

theorem defaultToken_ne_nil_iff {codec : Codec} {entity : Entity}
    {model : Model} {order? : Option SortOrder} :
    defaultToken codec entity model order? ≠ [] ↔
      ∃ type, model.resolve? entity.typeName = some (.entity type) ∧
        (∀ term ∈ order?.getD [], term.isDynamic = false) ∧
        (order?.getD [] ≠ [] ∨ type.keys ≠ []) := by
  simp only [← Model.entityType?_eq_some_iff, ← recordedNames_ne_nil_iff]
  unfold defaultToken
  cases model.entityType? entity.typeName with
  | none => simp
  | some type =>
      simp only [Option.some.injEq, exists_eq_left']
      cases recorded : recordedProperties? type order? with
      | none =>
          have notStatic : ¬ ∀ term ∈ order?.getD [],
              term.isDynamic = false := by
            intro isStatic
            rw [recordedProperties?_eq_some_iff.mpr ⟨isStatic, rfl⟩] at recorded
            cases recorded
          simp [notStatic]
      | some names =>
          obtain ⟨isStatic, rfl⟩ := recordedProperties?_eq_some_iff.mp recorded
          refine ⟨fun written => ⟨isStatic, ?_⟩, ?_⟩
          · intro nothing
            exact written (by rw [nothing]; rfl)
          · exact fun nonempty => codec.encode_ne_nil entity nonempty.2

end Strategy

namespace Handler

/-- Whatever its strategy, a handler offers a link behind a full page with a
last entity and a token for it, if no top option is used up. -/
theorem exists_nextLink?_iff {handler : Handler} {url : Uri.Url}
    {pageSize pageLength : Nat} {last? : Option Entity}
    {context : PageContext} :
    (∃ link, handler.nextLink? url pageSize pageLength last? context =
        some link) ↔
      ∃ last, last? = some last ∧ pageSize ≤ pageLength ∧
        handler.strategy.token last context.model context.effectiveOrder? ≠ [] ∧
        ∀ option ∈ NextLink.topOptions url, pageSize < option.2 := by
  have offered (token : List Char) :
      (∃ link, NextLink.after? url pageSize token = some link) ↔
        ∀ option ∈ NextLink.topOptions url, pageSize < option.2 := by
    rw [← Option.ne_none_iff_exists', ne_eq, NextLink.after?_eq_none_iff]
    simp only [not_exists, not_and, Nat.not_le]
  cases last? with
  | none => simp [nextLink?]
  | some last =>
      simp only [Option.some.injEq, exists_eq_left']
      by_cases full : pageLength < pageSize
      · rw [nextLink?_of_short full]
        simp [full]
      · by_cases written : handler.strategy.token last context.model
            context.effectiveOrder? = []
        · simp [nextLink?, written]
        · rw [nextLink?_of_full full written, offered]
          simp [Nat.not_lt.mp full, written]

/-- What the default strategy demands of a page, of the request for it and of
its last entity, to offer a link behind it. -/
structure CanGoOn (url : Uri.Url) (pageSize pageLength : Nat) (last : Entity)
    (context : PageContext) : Prop where
  full : pageSize ≤ pageLength
  /-- The type is an entity type of the model, and there is something to record:
  the page has an order or the type has keys. -/
  recorded : ∃ type,
    context.model.resolve? last.typeName = some (.entity type) ∧
      (context.effectiveOrder?.getD [] ≠ [] ∨ type.keys ≠ [])
  isStatic : ∀ term ∈ context.effectiveOrder?.getD [], term.isDynamic = false
  /-- The request asks for more than this page. -/
  unspent : ∀ option ∈ NextLink.topOptions url, pageSize < option.2

/-- A handler with the default strategy offers a next link exactly when there may
be more entities and the page can be resumed, whatever state it is in.  The order
that counts is that of the expanded navigation property whenever the page is
one, so the outer order makes no difference there. -/
theorem offers_link_iff_canGoOn {handler : Handler}
    (standard : handler.IsStandard none) (url : Uri.Url)
    (pageSize pageLength : Nat) (last? : Option Entity)
    (context : PageContext) :
    ((∃ link, handler.nextLink? url pageSize pageLength last? context =
        some link) ↔
      ∃ last, last? = some last ∧
        CanGoOn url pageSize pageLength last context) ∧
    ∀ inner?, context.expanded? = some inner? →
      context.effectiveOrder? = inner? ∧
        ∀ outer?, handler.nextLink? url pageSize pageLength last?
            { context with order? := outer? } =
          handler.nextLink? url pageSize pageLength last? context := by
  constructor
  · rw [exists_nextLink?_iff, standard.strategy_eq]
    refine exists_congr fun last => and_congr_right fun _ => ?_
    constructor
    · rintro ⟨full, written, unspent⟩
      obtain ⟨type, resolved, isStatic, nonempty⟩ :=
        Strategy.defaultToken_ne_nil_iff.mp written
      exact ⟨full, ⟨type, resolved, nonempty⟩, isStatic, unspent⟩
    · intro canGoOn
      obtain ⟨type, resolved, nonempty⟩ := canGoOn.recorded
      exact ⟨canGoOn.full, Strategy.defaultToken_ne_nil_iff.mpr
        ⟨type, resolved, canGoOn.isStatic, nonempty⟩, canGoOn.unspent⟩
  · intro inner? expanded
    refine ⟨by rw [PageContext.effectiveOrder?, expanded], fun outer? => ?_⟩
    have sameOrder : PageContext.effectiveOrder?
        { context with order? := outer? } = context.effectiveOrder? := by
      simp only [PageContext.effectiveOrder?, expanded]
    simp only [nextLink?, sameOrder]

/-- The tickets of a desk, listed without an order of their own under desks that
are sorted by a dynamic property. -/
def nestedTickets : PageContext :=
  { ticketPage with
    order? := some [⟨"rating", .descending, true⟩]
    expanded? := some none }

/-- The key alone carries on from a nested page of two tickets.  A page of nine
is the last one, since that is what the request asks for. -/
theorem offers_link_of_nestedTickets :
    let handler : Handler :=
      { Handler.default with
        state := .seeded "number:40".toList
          (PropertyMap.empty.insert "number" (.ofInt64 40)) }
    let last := ticket (.ofInt64 42)
    (∃ link, handler.nextLink? ticketsUrl 2 2 (some last) nestedTickets =
      some link) ∧
    (¬ ∃ link, handler.nextLink? ticketsUrl 9 9 (some last) nestedTickets =
      some link) ∧
    handler.nextLink? ticketsUrl 2 2 (some last)
        { nestedTickets with order? := none } =
      handler.nextLink? ticketsUrl 2 2 (some last) nestedTickets := by
  intro handler last
  have standard : handler.IsStandard none := .inState _ .default
  have options : NextLink.topOptions ticketsUrl = [("$top".toList, 9)] := by
    decide
  obtain ⟨offered, sameOrder⟩ :=
    offers_link_iff_canGoOn standard ticketsUrl 2 2 (some last) nestedTickets
  obtain ⟨offeredLast, _⟩ :=
    offers_link_iff_canGoOn standard ticketsUrl 9 9 (some last) nestedTickets
  refine ⟨offered.mpr ⟨last, rfl, ?_⟩, ?_, (sameOrder none rfl).2 none⟩
  · constructor
    · exact Nat.le_refl 2
    · exact ⟨ticketType, rfl, .inr (by decide)⟩
    · simp [nestedTickets, PageContext.effectiveOrder?]
    · rw [options]
      decide
  · rw [offeredLast]
    rintro ⟨last, _, canGoOn⟩
    have unspent := canGoOn.unspent
    rw [options] at unspent
    exact absurd (unspent _ List.mem_cons_self) (Nat.lt_irrefl 9)

end Handler

end KeysetPaging
