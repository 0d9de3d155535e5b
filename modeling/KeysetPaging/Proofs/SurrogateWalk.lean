import KeysetPaging.Proofs.SurrogateResumption

/-!
# Every record once, by its surrogate

When the query sorts by the surrogate alone, and no two records share one, every
link resumes behind the record that its token was written for.  So a walk visits
every record once, and the keys of the entity type play no part in it.
-/

namespace KeysetPaging

namespace Endpoint

open SortOrder MemoryQuery

variable {ρ : Type} [Record ρ]

/-- What paging by a surrogate demands of an endpoint: its records have
surrogates, and the query sorts by the surrogate alone. -/
structure SurrogatePageable (endpoint : Endpoint ρ)
    (fullName property : String) (direction : Direction)
    (surrogate : ρ → Int64) : Prop
    extends endpoint.HasSurrogates fullName property surrogate where
  pageSize_pos : 0 < endpoint.pageSize
  order_eq : endpoint.order = [⟨property, direction, false⟩]

namespace SurrogatePageable

variable {endpoint : Endpoint ρ} {fullName property : String}
  {direction : Direction} {surrogate : ρ → Int64}

theorem sorts
    (pageable :
      endpoint.SurrogatePageable fullName property direction surrogate) :
    endpoint.SurrogateSorted fullName property direction surrogate where
  toHasSurrogates := pageable.toHasSurrogates
  order_static := by simp [pageable.order_eq]
  order_distinct := by simp [pageable.order_eq]
  sorts_by_surrogate := by simp [pageable.order_eq]
  comparable := by
    have isNumber : ∀ record ∈ endpoint.records,
        (Record.value record property).kind? = some .number := by
      intro record member
      obtain ⟨number, held, _⟩ := pageable.whole record member
      rw [held]
      rfl
    rw [pageable.order_eq]
    intro left leftMember right rightMember term member
    rw [List.mem_singleton.mp member]
    exact Value.comparable_of_kind (.inr (isNumber left leftMember))
      (.inr (isNumber right rightMember))

theorem sorted_pairwise
    (pageable :
      endpoint.SurrogatePageable fullName property direction surrogate) :
    endpoint.sorted.Pairwise fun left right =>
      direction.Before (surrogate left) (surrogate right) :=
  pageable.sorts.sorted_pairwise pageable.order_eq

theorem carriesOn
    (pageable : endpoint.SurrogatePageable fullName property direction surrogate)
    {handler : Handler}
    (standard : handler.IsStandard (some (fullName, property))) :
    endpoint.CarriesOn handler
      fun record => Text.integerText (surrogate record).toInt where
  pageSize_pos := pageable.pageSize_pos
  writes _ := pageable.token_eq standard
  token_nonempty _ _ := Text.integerText_ne_nil _
  reads index last found := by
    obtain ⟨restricted, applied, executed⟩ :=
      pageable.sorts.exists_execute_applyTo (surrogate last)
    rw [filter_before_eq_drop pageable.sorted_pairwise found] at executed
    exact ⟨_, restricted,
      Handler.decode_integerText standard pageable.element_type _, rfl,
      applied, executed⟩

end SurrogatePageable

/-- Following the next links from a request without a token, a handler with the
surrogate strategy visits every record once and in the order of the surrogates,
in pages that are full but for the last, and then ends.  Neither the sign of a
surrogate nor its size matters, nor what state the handler was in. -/
theorem walk_visits_each_surrogate_once {endpoint : Endpoint ρ}
    {fullName property : String} {direction : Direction} {surrogate : ρ → Int64}
    {handler : Handler} {first : Uri.Url}
    (standard : handler.IsStandard (some (fullName, property)))
    (pageable : endpoint.SurrogatePageable fullName property direction surrogate)
    (unlimited : NextLink.Unlimited first)
    (tokenless : NextLink.tokenOf? first = none) :
    ∀ limit, endpoint.records.length / endpoint.pageSize < limit →
      ∃ pages : List (Page ρ),
        endpoint.walk handler limit first = pages.map Except.ok ∧
          pages.length = endpoint.records.length / endpoint.pageSize + 1 ∧
          (∀ page ∈ pages.dropLast, page.records.length = endpoint.pageSize) ∧
          (pages.map Page.records).flatten.Perm endpoint.records ∧
          (pages.map Page.records).flatten.Pairwise fun left right =>
            direction.Before (surrogate left) (surrogate right) := by
  intro limit enough
  have start : endpoint.StandsAt
      (fun record => Text.integerText (surrogate record).toInt) 0 first :=
    ⟨unlimited, tokenless⟩
  obtain ⟨pages, walked, pagesFrom⟩ :=
    (pageable.carriesOn standard).exists_walk start enough
  have whole : (pages.map Page.records).flatten = endpoint.sorted :=
    pagesFrom.flatten_eq
  refine ⟨pages, walked, pagesFrom.length_eq, pagesFrom.full, ?_, ?_⟩
  · rw [whole]
    exact sortRecords_perm endpoint.order endpoint.records
  · rw [whole]
    exact pageable.sorted_pairwise

/-- Players from the highest number down, the extremes among them. -/
def numberedPlayers : Endpoint Player :=
  { leaderboard with
    records := [⟨0, none⟩, ⟨Int64.minValue, some 5⟩, ⟨-7, none⟩,
      ⟨Int64.maxValue, none⟩, ⟨3, some 5⟩]
    order := [⟨"id", .descending, false⟩]
    parameterize := true }

theorem surrogatePageable_numberedPlayers :
    numberedPlayers.SurrogatePageable "Game.Player" "id" .descending
      Player.number where
  pageSize_pos := by decide
  order_eq := rfl
  element_type := ⟨"demo::Player", .entity playerType, rfl, rfl, rfl⟩
  record_type _ _ := ⟨.entity playerType, rfl, rfl⟩
  whole _ _ := ⟨_, rfl, Decimal.toRat_ofInt64 _⟩
  distinct := by decide

/-- Five players on pages of two take three pages, also by their numbers. -/
theorem walk_visits_each_numbered_player_once :
    ∃ handler, Handler.withStrategy {}
        (.surrogate "Game.Player" "id" .default) = .ok handler ∧
      ∀ limit, 2 < limit →
        ∃ pages : List (Page Player),
          numberedPlayers.walk handler limit leaderboardUrl =
              pages.map Except.ok ∧
            pages.length = 3 ∧
            (∀ page ∈ pages.dropLast, page.records.length = 2) ∧
            (pages.map Page.records).flatten.Perm numberedPlayers.records ∧
            (pages.map Page.records).flatten.Pairwise fun left right =>
              right.number < left.number := by
  obtain ⟨handler, made⟩ : ∃ handler, Handler.withStrategy {}
      (.standard (some ("Game.Player", "id")) .default) = .ok handler :=
    ⟨_, rfl⟩
  exact ⟨handler, made, walk_visits_each_surrogate_once (.withStrategy made)
    surrogatePageable_numberedPlayers unlimited_leaderboardUrl (by decide)⟩

end Endpoint

end KeysetPaging
