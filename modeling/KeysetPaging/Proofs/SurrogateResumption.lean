import KeysetPaging.Proofs.LinkOffer
import KeysetPaging.Proofs.Walk

/-!
# Resuming by a surrogate

A surrogate token is a bare integer.  It names neither its property nor a
direction: the property is known to the strategy, and the direction is that of
the order of the query.  Whatever else the query sorts by, the token does not
tell, so a query that resumes lists the records with a surrogate beyond the
recorded one.  Those are the records behind the last one of the page exactly if
the query lists its records by their surrogates, as it does when the surrogate
is what it sorts by first.
-/

namespace KeysetPaging

/-- One number comes before another in a direction. -/
def Direction.Before (direction : Direction) (left right : Int64) : Prop :=
  match direction with
  | .ascending => left < right
  | .descending => right < left

instance (direction : Direction) (left right : Int64) :
    Decidable (direction.Before left right) :=
  match direction with
  | .ascending => inferInstanceAs (Decidable (left < right))
  | .descending => inferInstanceAs (Decidable (right < left))

namespace Direction.Before

variable {direction : Direction} {left right : Int64}

theorem asymm (before : direction.Before left right) :
    ¬ direction.Before right left := by
  cases direction with
  | ascending => exact Int64.lt_asymm before
  | descending => exact Int64.lt_asymm before

theorem of_not_before (different : left ≠ right)
    (notAfter : ¬ direction.Before right left) :
    direction.Before left right := by
  cases direction with
  | ascending =>
      exact Int64.lt_of_le_of_ne (Int64.not_lt.mp notAfter) different
  | descending =>
      exact Int64.lt_of_le_of_ne (Int64.not_lt.mp notAfter) different.symm

end Direction.Before

namespace Value

theorem content?_of_whole {value : Value} {n : Int64}
    (whole : ∃ number, value = .number number ∧ number.toRat = n.toInt) :
    value.content? = (ofInt64 n).content? := by
  obtain ⟨number, rfl, same⟩ := whole
  rw [ofInt64, content?, content?, Decimal.toRat_ofInt64, same]

end Value

namespace SortOrder

theorem compareValues_eq_lt_iff_before {direction : Direction}
    {left right : Value} {m n : Int64}
    (leftSame : left.content? = (Value.ofInt64 m).content?)
    (rightSame : right.content? = (Value.ofInt64 n).content?) :
    compareValues direction left right = .lt ↔ direction.Before m n := by
  rw [compareValues_congr direction leftSame rightSame, compareValues_lt_iff]
  have compared (m n : Int64) : (Value.ofInt64 m).compareNullsFirst
      (Value.ofInt64 n) = some .lt ↔ m < n := by
    rw [← Std.compare_eq_lt, ← Decimal.compare_ofInt64]
    exact Option.some_inj
  cases direction with
  | ascending => exact compared m n
  | descending => exact compared n m

end SortOrder

namespace Endpoint

open SortOrder MemoryQuery

variable {ρ : Type} [Record ρ]

/-- The records that the query lists when it resumes with the token of a
request, on all pages to come. -/
def listFrom (endpoint : Endpoint ρ) (handler : Handler) (request : Uri.Url) :
    Except Error (List ρ) := do
  let handler ← endpoint.receive handler request
  let query ←
    handler.applyTo endpoint.query endpoint.order endpoint.parameterize
  query.execute.mapError Error.invalidFilter

/-- A next link behind a record of the sorted list, offered for a page of any
size, lists the records behind that one. -/
def LinksResume (endpoint : Endpoint ρ) (handler : Handler) : Prop :=
  ∀ index last, endpoint.sorted[index]? = some last →
    ∀ url pageSize pageLength link,
      handler.nextLink? url pageSize pageLength
          (some (Entity.ofRecord last)) endpoint.pageContext = some link →
        endpoint.listFrom handler link = .ok (endpoint.sorted.drop (index + 1))

theorem filter_before_eq_drop {endpoint : Endpoint ρ} {direction : Direction}
    {surrogate : ρ → Int64}
    (ordered : endpoint.sorted.Pairwise fun earlier later =>
      direction.Before (surrogate earlier) (surrogate later))
    {index : Nat} {last : ρ} (found : endpoint.sorted[index]? = some last) :
    (endpoint.sorted.filter fun record =>
        direction.Before (surrogate last) (surrogate record)) =
      endpoint.sorted.drop (index + 1) := by
  refine filter_eq_drop_of_pairwise ordered ?_ found ?_
  · exact fun _ _ _ _ => Direction.Before.asymm
  · exact fun _ _ => decide_eq_true_iff

/-- The records are of the target type, and each has a signed 64-bit integer of
its own as its surrogate. -/
structure HasSurrogates (endpoint : Endpoint ρ) (fullName property : String)
    (surrogate : ρ → Int64) : Prop where
  element_type : Strategy.IsTarget fullName endpoint.tokenContext
  record_type : ∀ record ∈ endpoint.records, ∃ type,
    endpoint.model.resolve? (Record.reportedName record) = some type ∧
      type.fullName = fullName
  whole : ∀ record ∈ endpoint.records, ∃ number,
    Record.value record property = .number number ∧
      number.toRat = (surrogate record).toInt
  distinct : (endpoint.records.map surrogate).Nodup

namespace HasSurrogates

variable {endpoint : Endpoint ρ} {fullName property : String}
  {surrogate : ρ → Int64} {handler : Handler}

theorem isSurrogate
    (has : endpoint.HasSurrogates fullName property surrogate)
    {record : ρ} (member : record ∈ endpoint.records) :
    Strategy.IsSurrogate (some (fullName, property)) (Entity.ofRecord record)
      endpoint.model property (surrogate record) where
  of_target := by
    obtain ⟨type, resolved, rfl⟩ := has.record_type record member
    exact ⟨type, resolved, rfl⟩
  whole := has.whole record member

/-- Whatever the query sorts by, the token of a record is its surrogate. -/
theorem token_eq (has : endpoint.HasSurrogates fullName property surrogate)
    (standard : handler.IsStandard (some (fullName, property)))
    {record : ρ} (member : record ∈ endpoint.records) :
    handler.strategy.token (Entity.ofRecord record) endpoint.model
      (some endpoint.order) = Text.integerText (surrogate record).toInt := by
  rw [standard.strategy_eq]
  exact Strategy.token_of_isSurrogate (has.isSurrogate member)

theorem exists_linked (has : endpoint.HasSurrogates fullName property surrogate)
    (standard : handler.IsStandard (some (fullName, property)))
    {last : ρ} (member : last ∈ endpoint.records) :
    ∃ url link, handler.nextLink? url 1 1 (some (Entity.ofRecord last))
      endpoint.pageContext = some link := by
  let url : Uri.Url :=
    { scheme := "https".toList
      authority? := none
      path := []
      query? := none
      fragment? := none
      query_kept := by simp }
  have noOptions : NextLink.topOptions url = [] := rfl
  have written : handler.strategy.token (Entity.ofRecord last)
      endpoint.pageContext.model endpoint.pageContext.effectiveOrder? ≠ [] :=
    (has.token_eq standard member).trans_ne (Text.integerText_ne_nil _)
  refine ⟨url, Handler.exists_nextLink?_iff.mpr
    ⟨_, rfl, Nat.le_refl 1, written, ?_⟩⟩
  simp [noOptions]

end HasSurrogates

/-- Records with surrogates that the query sorts by declared properties that can
be compared, each of them once and the surrogate among them. -/
structure SurrogateSorted (endpoint : Endpoint ρ)
    (fullName property : String) (direction : Direction)
    (surrogate : ρ → Int64) : Prop
    extends endpoint.HasSurrogates fullName property surrogate where
  order_static : ∀ term ∈ endpoint.order, term.isDynamic = false
  order_distinct : (endpoint.order.map SortTerm.name).Nodup
  sorts_by_surrogate : ⟨property, direction, false⟩ ∈ endpoint.order
  comparable : AllComparable endpoint.order endpoint.records

namespace SurrogateSorted

variable {endpoint : Endpoint ρ} {fullName property : String}
  {direction : Direction} {surrogate : ρ → Int64}

theorem isAfter_iff
    (sorts : endpoint.SurrogateSorted fullName property direction surrogate)
    {record : ρ} (member : record ∈ endpoint.records) (n : Int64) :
    Keyset.IsAfter endpoint.order.directions (Record.value record)
        (PropertyMap.empty.insert property (Value.ofInt64 n)).entries ↔
      direction.Before n (surrogate record) := by
  have fields : (PropertyMap.empty.insert property (Value.ofInt64 n)).entries =
      [(property, Value.ofInt64 n)] :=
    rfl
  have sameDirection :
      (Keyset.positionTerm endpoint.order.directions property).direction =
        direction := by
    rw [Keyset.positionTerm, get?_directions sorts.order_static
      sorts.order_distinct sorts.sorts_by_surrogate, Option.getD_some]
  have same : (Value.ofInt64 n).content? = (Value.ofInt64 n).content? := rfl
  rw [fields, Keyset.isAfter_cons_iff, Keyset.beyond_iff_compareValues same,
    sameDirection, compareValues_eq_lt_iff_before same
      (Value.content?_of_whole (sorts.whole record member))]
  simp [Keyset.not_isAfter_nil]

theorem exists_execute_applyTo
    (sorts : endpoint.SurrogateSorted fullName property direction surrogate)
    (n : Int64) :
    ∃ restricted,
      Keyset.applyTo endpoint.query
          (PropertyMap.empty.insert property (Value.ofInt64 n)) endpoint.order
          endpoint.parameterize = .ok restricted ∧
        restricted.execute = .ok (endpoint.sorted.filter fun record =>
          direction.Before n (surrogate record)) := by
  have isTyped : endpoint.query.elementType?.isNone = false := rfl
  have nonempty : (PropertyMap.empty.insert property
      (Value.ofInt64 n)).isEmpty = false := rfl
  obtain ⟨restricted, keep, applied, keepsAfter, executed⟩ :=
    MemoryQuery.exists_execute_applyTo nonempty isTyped rfl sorts.comparable
      endpoint.order endpoint.parameterize
  refine ⟨restricted, applied, executed.trans ?_⟩
  congr 1
  refine List.filter_congr fun record listed => ?_
  rw [Bool.eq_iff_iff, keepsAfter record, decide_eq_true_iff]
  exact sorts.isAfter_iff (mem_sorted.mp listed) n

theorem sorted_pairwise
    (sorts : endpoint.SurrogateSorted fullName property direction surrogate)
    {rest : SortOrder}
    (first : endpoint.order = ⟨property, direction, false⟩ :: rest) :
    endpoint.sorted.Pairwise fun earlier later =>
      direction.Before (surrogate earlier) (surrogate later) := by
  have different : endpoint.sorted.Pairwise fun earlier later =>
      surrogate earlier ≠ surrogate later := by
    have permuted := (sortRecords_perm endpoint.order endpoint.records).map
      surrogate
    exact List.pairwise_map.mp (permuted.nodup_iff.mpr sorts.distinct)
  have inOrder := sortRecords_sorted sorts.comparable
  refine (inOrder.and different).imp_of_mem ?_
  rintro earlier later earlierListed laterListed ⟨notBefore, differ⟩
  refine .of_not_before differ fun before => notBefore ?_
  have below := (compareValues_eq_lt_iff_before
    (Value.content?_of_whole
      (sorts.whole later (mem_sorted.mp laterListed)))
    (Value.content?_of_whole
      (sorts.whole earlier (mem_sorted.mp earlierListed)))).mpr before
  rw [Precedes, first, compareBy, Ordering.then_eq_lt]
  exact .inl below

section Links

variable {handler : Handler}
  (sorts : endpoint.SurrogateSorted fullName property direction surrogate)
  (standard : handler.IsStandard (some (fullName, property)))

include sorts standard

theorem listFrom_of_linked {last : ρ} (member : last ∈ endpoint.records)
    {url link : Uri.Url} {pageSize pageLength : Nat}
    (linked : handler.nextLink? url pageSize pageLength
      (some (Entity.ofRecord last)) endpoint.pageContext = some link) :
    endpoint.listFrom handler link =
      .ok (endpoint.sorted.filter fun record =>
        direction.Before (surrogate last) (surrogate record)) := by
  have carried : NextLink.tokenOf? link =
      some (Text.integerText (surrogate last).toInt) := by
    rw [(Handler.tokenOf?_nextLink? linked).2]
    exact congrArg some (sorts.token_eq standard member)
  have decoded := Handler.decode_integerText standard sorts.element_type
    (surrogate last)
  obtain ⟨restricted, applied, executed⟩ :=
    sorts.exists_execute_applyTo (surrogate last)
  rw [listFrom, receive_of_decoded carried decoded rfl, Fallible.ok_bind,
    Handler.applyTo_of_seeded, applied, Fallible.ok_bind, executed]
  rfl

/-- Links resume as soon as the records are listed by their surrogates, and not
otherwise, since a link is offered behind every record. -/
theorem linksResume_iff :
    endpoint.LinksResume handler ↔
      endpoint.sorted.Pairwise fun earlier later =>
        direction.Before (surrogate earlier) (surrogate later) := by
  constructor
  · intro resume
    rw [List.pairwise_iff_getElem]
    intro index later insideFirst insideLater before
    have found := List.getElem?_eq_getElem insideFirst
    have member : endpoint.sorted[index] ∈ endpoint.records :=
      mem_sorted.mp (List.getElem_mem insideFirst)
    obtain ⟨url, link, linked⟩ := sorts.exists_linked standard member
    have listed := resume index _ found url 1 1 link linked
    rw [sorts.listFrom_of_linked standard member linked, Except.ok.injEq,
      filter_eq_drop_iff] at listed
    have behind : endpoint.sorted[later] ∈ endpoint.sorted.drop (index + 1) :=
      List.mem_drop_iff_getElem.mpr
        ⟨later - (index + 1), by omega, by congr 1; omega⟩
    exact of_decide_eq_true (listed.2 _ behind)
  · intro ordered index last found url pageSize pageLength link linked
    have member : last ∈ endpoint.records :=
      mem_sorted.mp (List.mem_of_getElem? found)
    rw [sorts.listFrom_of_linked standard member linked,
      filter_before_eq_drop ordered found]

end Links

end SurrogateSorted

/-- A link behind a record lists the records with a surrogate beyond that of the
record.  These are the records behind it exactly if no other record has such a
surrogate, and so for all of its links exactly if the query lists its records by
their surrogates.  That is so when it sorts by the surrogate first. -/
theorem links_resume_iff_listed_by_surrogate {endpoint : Endpoint ρ}
    {fullName property : String} {direction : Direction} {surrogate : ρ → Int64}
    {handler : Handler}
    (standard : handler.IsStandard (some (fullName, property)))
    (sorts :
      endpoint.SurrogateSorted fullName property direction surrogate) :
    endpoint.query.execute = .ok endpoint.sorted ∧
    (∀ index last, endpoint.sorted[index]? = some last →
      ∀ url pageSize pageLength link,
        handler.nextLink? url pageSize pageLength
            (some (Entity.ofRecord last)) endpoint.pageContext = some link →
          endpoint.listFrom handler link =
              .ok (endpoint.sorted.filter fun record =>
                direction.Before (surrogate last) (surrogate record)) ∧
            (endpoint.listFrom handler link =
                .ok (endpoint.sorted.drop (index + 1)) ↔
              (∀ record ∈ endpoint.sorted.take (index + 1),
                ¬ direction.Before (surrogate last) (surrogate record)) ∧
              ∀ record ∈ endpoint.sorted.drop (index + 1),
                direction.Before (surrogate last) (surrogate record))) ∧
    (endpoint.LinksResume handler ↔
      endpoint.sorted.Pairwise fun earlier later =>
        direction.Before (surrogate earlier) (surrogate later)) ∧
    ∀ rest, endpoint.order = ⟨property, direction, false⟩ :: rest →
      endpoint.LinksResume handler := by
  refine ⟨execute_query, ?_, sorts.linksResume_iff standard, ?_⟩
  · intro index last found url pageSize pageLength link linked
    have member : last ∈ endpoint.records :=
      mem_sorted.mp (List.mem_of_getElem? found)
    have listed := sorts.listFrom_of_linked standard member linked
    refine ⟨listed, ?_⟩
    rw [listed, Except.ok.injEq, filter_eq_drop_iff]
    simp only [decide_eq_false_iff_not, decide_eq_true_eq]
  · intro rest first
    exact (sorts.linksResume_iff standard).mpr (sorts.sorted_pairwise first)

/-- Players from the lowest score up, which their numbers do not follow. -/
def rankedPlayers : Endpoint Player :=
  { leaderboard with
    records := [⟨1, some 30⟩, ⟨2, some 20⟩]
    order := [⟨"score", .ascending, false⟩, ⟨"id", .ascending, false⟩] }

/-- Players from the lowest score up, which their numbers follow. -/
def risingPlayers : Endpoint Player :=
  { rankedPlayers with records := [⟨2, some 30⟩, ⟨1, some 20⟩] }

/-- Players from the highest number down. -/
def latestPlayers : Endpoint Player :=
  { rankedPlayers with
    order := [⟨"id", .descending, false⟩, ⟨"score", .ascending, false⟩] }

theorem comparable_players (left right : Player) (name : String) :
    (Record.value left name).Comparable (Record.value right name) := by
  have numbers (player : Player) : Record.value player name = .null ∨
      (Record.value player name).kind? = some .number := by
    obtain ⟨number, score?⟩ := player
    by_cases isId : name = "id"
    · exact .inr (by simp [Record.value, Record.property?, isId]; rfl)
    · by_cases isScore : name = "score"
      · cases score? with
        | none => exact .inl (by simp [Record.value, Record.property?, isScore])
        | some score =>
            exact .inr (by simp [Record.value, Record.property?, isScore]; rfl)
      · exact .inl (by simp [Record.value, Record.property?, isId, isScore])
  exact Value.comparable_of_kind (numbers left) (numbers right)

theorem surrogateSorted_rankedPlayers :
    rankedPlayers.SurrogateSorted "Game.Player" "id" .ascending
      Player.number where
  order_static := by decide
  order_distinct := by decide
  sorts_by_surrogate := by simp [rankedPlayers]
  comparable _ _ _ _ _ _ := comparable_players _ _ _
  element_type := ⟨"demo::Player", .entity playerType, rfl, rfl, rfl⟩
  record_type _ _ := ⟨.entity playerType, rfl, rfl⟩
  whole _ _ := ⟨_, rfl, Decimal.toRat_ofInt64 _⟩
  distinct := by decide

/-- Numbers carry on from players that are listed by their numbers, be it that
they are sorted by them first or that their scores agree. -/
theorem links_resume_of_latestPlayers :
    ∃ handler, Handler.withStrategy {}
        (.surrogate "Game.Player" "id" .default) = .ok handler ∧
      latestPlayers.LinksResume handler ∧ risingPlayers.LinksResume handler := by
  obtain ⟨handler, made⟩ : ∃ handler, Handler.withStrategy {}
      (.standard (some ("Game.Player", "id")) .default) = .ok handler :=
    ⟨_, rfl⟩
  have ranked := surrogateSorted_rankedPlayers
  have latest : latestPlayers.SurrogateSorted "Game.Player" "id" .descending
      Player.number :=
    { ranked with
      order_static := by decide
      order_distinct := by decide
      sorts_by_surrogate := by simp [latestPlayers]
      comparable := fun _ _ _ _ _ _ => comparable_players _ _ _ }
  have rising : risingPlayers.SurrogateSorted "Game.Player" "id" .ascending
      Player.number :=
    { ranked with
      comparable := fun _ _ _ _ _ _ => comparable_players _ _ _
      record_type := fun _ _ => ⟨.entity playerType, rfl, rfl⟩
      whole := fun _ _ => ⟨_, rfl, Decimal.toRat_ofInt64 _⟩
      distinct := by decide }
  obtain ⟨_, _, _, firstByNumber⟩ :=
    links_resume_iff_listed_by_surrogate (.withStrategy made) latest
  obtain ⟨_, _, agree, _⟩ :=
    links_resume_iff_listed_by_surrogate (.withStrategy made) rising
  exact ⟨handler, made, firstByNumber _ rfl, agree.mpr (by decide)⟩

/-- The number of the player with the lowest score does not carry on to the
other one, who has a lower number. -/
theorem link_loses_rankedPlayer :
    ∃ handler link, Handler.withStrategy {}
        (.surrogate "Game.Player" "id" .default) = .ok handler ∧
      rankedPlayers.SurrogateSorted "Game.Player" "id" .ascending
        Player.number ∧
      rankedPlayers.query.execute = .ok [⟨2, some 20⟩, ⟨1, some 30⟩] ∧
      handler.nextLink? leaderboardUrl 1 1
          (some (Entity.ofRecord (⟨2, some 20⟩ : Player)))
          rankedPlayers.pageContext = some link ∧
      rankedPlayers.listFrom handler link = .ok [] ∧
      ¬ rankedPlayers.LinksResume handler := by
  obtain ⟨handler, made⟩ : ∃ handler, Handler.withStrategy {}
      (.standard (some ("Game.Player", "id")) .default) = .ok handler :=
    ⟨_, rfl⟩
  have standard : handler.IsStandard (some ("Game.Player", "id")) :=
    .withStrategy made
  have sorted : rankedPlayers.sorted = [⟨2, some 20⟩, ⟨1, some 30⟩] := rfl
  obtain ⟨link, linked⟩ : ∃ link, handler.nextLink? leaderboardUrl 1 1
      (some (Entity.ofRecord (⟨2, some 20⟩ : Player)))
      rankedPlayers.pageContext = some link := by
    cases made
    exact ⟨_, rfl⟩
  have listed : rankedPlayers.listFrom handler link = .ok [] := by
    rw [surrogateSorted_rankedPlayers.listFrom_of_linked standard
      (by simp [rankedPlayers]) linked, sorted]
    rfl
  refine ⟨handler, link, made, surrogateSorted_rankedPlayers, ?_, linked,
    listed, ?_⟩
  · rw [execute_query, sorted]
  · intro resume
    have behind := resume 0 ⟨2, some 20⟩ rfl leaderboardUrl 1 1 link linked
    rw [listed, sorted] at behind
    cases behind

end Endpoint

end KeysetPaging
