import KeysetPaging.Proofs.Query.Memory
import KeysetPaging.Proofs.Session
import KeysetPaging.Proofs.Walk

/-!
# Filters and the order of a query

A query drops records first and sorts the rest afterwards, so a filter that is
installed later has its say before the sort.  That makes no difference: sorting
is stable and, among comparable records, commutes with filtering.  A query that
resumes after a token therefore lists a part of what it listed before, in the
order in which it listed it.
-/

namespace KeysetPaging

namespace MemoryQuery

variable {ρ : Type} [Record ρ]

/-- A list of records is a stable sort of others: it has the same records, none
before one that precedes it, and among records that tie it has the order of the
others. -/
structure IsStableSort (order : SortOrder) (given sorted : List ρ) :
    Prop where
  perm : sorted.Perm given
  ordered : sorted.Pairwise fun earlier later =>
    order.compareBy (Record.value earlier) (Record.value later) ≠ .gt
  stable : ∀ record ∈ given,
    sorted.filter (Ties order record ·) = given.filter (Ties order record ·)

theorem isStableSort_sortRecords {order : SortOrder} {records : List ρ}
    (comparable : AllComparable order records) :
    IsStableSort order records (sortRecords order records) where
  perm := sortRecords_perm order records
  ordered := by
    refine (sortRecords_sorted comparable).imp ?_
    intro earlier later unordered above
    rw [Precedes, SortOrder.compareBy_swap, Ordering.swap_eq_lt] at unordered
    exact unordered above
  stable := fun _ => filter_ties_sortRecords comparable

/-- Every one of some filters holds of a record. -/
def Passes (filters : List Filter) (record : ρ) : Prop :=
  ∀ filter ∈ filters, filter.evaluate (Record.value record) = .ok true

instance (filters : List Filter) (record : ρ) :
    Decidable (Passes filters record) :=
  inferInstanceAs (Decidable (∀ filter ∈ filters, _))

theorem passes_of_evaluates {filters : List Filter} {record : ρ}
    (evaluates : ∀ filter ∈ filters, ∃ holds,
      filter.evaluate (Record.value record) = .ok holds) :
    passes record filters = .ok (decide (Passes filters record)) := by
  induction filters with
  | nil => rfl
  | cons filter filters induction =>
      obtain ⟨⟨holds, evaluated⟩, rest⟩ := List.forall_mem_cons.mp evaluates
      rw [passes, evaluated, Fallible.ok_bind]
      cases holds with
      | true =>
          rw [if_pos rfl, induction rest, Except.ok.injEq, decide_eq_decide]
          simp [Passes, evaluated]
      | false => simp [Passes, evaluated]

theorem allComparable_of_oneKind {order : SortOrder} {records : List ρ}
    (oneKind : ∀ term ∈ order, ∃ kind, ∀ record ∈ records,
      Record.value record term.name = .null ∨
        (Record.value record term.name).kind? = some kind) :
    AllComparable order records := by
  intro left leftMember right rightMember term member
  obtain ⟨kind, ofKind⟩ := oneKind term member
  exact Value.comparable_of_kind (ofKind left leftMember)
    (ofKind right rightMember)

/-- A query with filters that evaluate executes to a stable sort of the records
that pass them.  Resumed after a token, whatever order the token is read in, it
executes to those of the same rows that the keyset predicate holds of, where
they are.  A page is the front of the rows, before and after. -/
theorem applyTo_keeps_order {query : MemoryQuery ρ}
    (evaluates : ∀ filter ∈ query.filters, ∀ record ∈ query.records,
      ∃ holds, filter.evaluate (Record.value record) = .ok holds)
    (oneKind : ∀ term ∈ query.order, ∃ kind, ∀ record ∈ query.records,
      Record.value record term.name = .null ∨
        (Record.value record term.name).kind? = some kind)
    (isTyped : query.elementType?.isNone = false) :
    ∃ rows, query.execute = .ok rows ∧
      IsStableSort query.order (query.records.filter (Passes query.filters ·))
        rows ∧
      (∀ size, query.page size = .ok (rows.take size)) ∧
      ∀ (handler : Handler) (calls : List Call) (token : List Char)
        (values : PropertyMap Value), handler.IsMade →
        (handler.after calls).state = .seeded token values →
        ∀ (order : SortOrder) (parameterize : Bool),
          ∃ predicate restricted,
            Keyset.predicate? values order parameterize = some predicate ∧
            (handler.after calls).applyTo query order parameterize =
              .ok restricted ∧
            restricted.execute =
              .ok (rows.filter fun record =>
                predicate.evaluate (Record.value record) = .ok true) ∧
            ∀ size, restricted.page size =
              .ok ((rows.filter fun record =>
                predicate.evaluate (Record.value record) = .ok true).take
                  size) := by
  have decided : ∀ record ∈ query.records, passes record query.filters =
      .ok (decide (Passes query.filters record)) :=
    fun record member => passes_of_evaluates fun filter installed =>
      evaluates filter installed record member
  have comparable := allComparable_of_oneKind oneKind
  have executed := execute_of_decided decided
  refine ⟨_, executed, isStableSort_sortRecords ?_, ?_, ?_⟩
  · exact fun left leftMember right rightMember =>
      comparable left (List.mem_of_mem_filter leftMember)
        right (List.mem_of_mem_filter rightMember)
  · exact page_of_execute executed
  · intro handler calls token values made seeded order parameterize
    have nonempty := (Handler.tookFirst_of_after made.fresh seeded).1
    obtain ⟨predicate, built⟩ :=
      Keyset.exists_predicate? nonempty order parameterize
    have evaluated (record : ρ) : predicate.evaluate (Record.value record) =
        .ok (decide (predicate.evaluate (Record.value record) = .ok true)) := by
      obtain ⟨selected, outcome, _⟩ :=
        Keyset.evaluate_predicate? built (Record.value record)
      cases selected <;> simp [outcome]
    have resumed := execute_addFilter comparable decided evaluated
    refine ⟨predicate, query.addFilter predicate, built, ?_, resumed,
      page_of_execute resumed⟩
    rw [Handler.applyTo_of_values (by rw [seeded]; rfl)]
    exact applyTo_of_predicate? isTyped built

open Endpoint

/-- All players but one, from the highest score down. -/
def contenders : MemoryQuery Player where
  elementType? := leaderboard.elementType?
  records := leaderboard.records
  order := leaderboard.order
  filters := [.compare (.property "id") .ne (.constant (.ofInt64 4))]

/-- A request for the players after one of two with a score of five. -/
def afterTheSecond : List Call :=
  [.reset, .setToken "score:5,id:2".toList leaderboard.tokenContext]

/-- The other player of that score comes next, and then those without one, who
are listed as they are given. -/
theorem applyTo_keeps_order_of_contenders :
    let given : List Player := [⟨1, none⟩, ⟨2, some 5⟩, ⟨3, none⟩, ⟨5, some 5⟩,
      ⟨6, none⟩]
    let rows : List Player := [⟨2, some 5⟩, ⟨5, some 5⟩, ⟨1, none⟩, ⟨3, none⟩,
      ⟨6, none⟩]
    contenders.execute = .ok rows ∧
      IsStableSort contenders.order given rows ∧
      ∃ restricted,
        (Handler.default.after afterTheSecond).applyTo contenders
            contenders.order true = .ok restricted ∧
          restricted.page 3 = .ok [⟨5, some 5⟩, ⟨1, none⟩, ⟨3, none⟩] := by
  intro given rows
  have evaluates : ∀ filter ∈ contenders.filters,
      ∀ record ∈ contenders.records, ∃ holds,
        filter.evaluate (Record.value record) = .ok holds := by
    intro filter installed record _
    rw [List.mem_singleton.mp installed]
    exact ⟨_, rfl⟩
  have oneKind : ∀ term ∈ contenders.order, ∃ kind,
      ∀ record ∈ contenders.records,
        Record.value record term.name = .null ∨
          (Record.value record term.name).kind? = some kind := by
    intro term member
    rw [List.mem_singleton.mp member]
    exact ⟨.number, by decide⟩
  obtain ⟨listed, executed, stable, _, resumes⟩ :=
    applyTo_keeps_order evaluates oneKind rfl
  have whole : contenders.execute = .ok rows := rfl
  rw [whole] at executed
  cases executed
  have seeded : (Handler.default.after afterTheSecond).state =
      .seeded "score:5,id:2".toList
        (.ofList [("score", .ofInt64 5), ("id", .ofInt64 2)]) := rfl
  obtain ⟨predicate, restricted, built, applied, _, pages⟩ :=
    resumes _ _ _ _ .default seeded contenders.order true
  refine ⟨whole, stable, restricted, applied, ?_⟩
  rw [pages]
  cases built
  rfl

end MemoryQuery

end KeysetPaging
