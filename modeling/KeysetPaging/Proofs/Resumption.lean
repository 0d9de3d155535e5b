import KeysetPaging.Proofs.Walk

/-!
# Resuming after a record

A query restricted by the token of one of its records lists the records that
come after it in the order of the query followed by the keys ascending.  The
query itself lists records that its order ties as they are given.  So the two
agree, at the place of a record, when the records that tie with it are listed on
that side of it where their keys put them, and they agree everywhere exactly
when ties are given in ascending key order.
-/

namespace KeysetPaging

namespace Endpoint

open SortOrder MemoryQuery

variable {ρ : Type} [Record ρ]

/-- What the query of an endpoint lists for a handler that takes the token of a
record. -/
def resumeAfter (endpoint : Endpoint ρ) (handler : Handler) (last : ρ) :
    Except Error (List ρ) := do
  let token := handler.strategy.token (Entity.ofRecord last) endpoint.model
    (some endpoint.order)
  let seeded ← handler.setToken token endpoint.tokenContext
  let restricted ←
    seeded.applyTo endpoint.query endpoint.order endpoint.parameterize
  restricted.execute.mapError Error.invalidFilter

/-- Records that tie with the one listed at an index have greater keys if they
are listed after it, and not if they are listed before it. -/
def TiesAscendAround (endpoint : Endpoint ρ) (type : EntityType) (index : Nat)
    (last : ρ) : Prop :=
  (∀ other ∈ endpoint.sorted.take (index + 1),
      endpoint.order.compareBy (Record.value last) (Record.value other) = .eq →
        (ascending type.keys).compareBy (Record.value last)
          (Record.value other) ≠ .lt) ∧
    ∀ other ∈ endpoint.sorted.drop (index + 1),
      endpoint.order.compareBy (Record.value last) (Record.value other) = .eq →
        (ascending type.keys).compareBy (Record.value last)
          (Record.value other) = .lt

namespace Resumable

variable {endpoint : Endpoint ρ} {codec : Codec} {type : EntityType}

theorem resumeAfter_eq_filter (resumable : endpoint.Resumable codec type)
    {last : ρ} (member : last ∈ endpoint.records) :
    endpoint.resumeAfter (.ofCodec codec .fresh) last =
      .ok (endpoint.sorted.filter fun record =>
        Precedes (endpoint.positionOrder type) last record) := by
  obtain ⟨values, decoded, names, records⟩ :=
    resumable.exists_decode_tokenAfter member
  have taken := Handler.setToken_ofCodec decoded
    (resumable.isEmpty_eq_false_of_names names)
  obtain ⟨restricted, applied, executed⟩ :=
    resumable.exists_execute_applyTo member names records
  have restriction : (Handler.ofCodec codec (.seeded
      (endpoint.tokenAfter codec type last) values)).applyTo endpoint.query
        endpoint.order endpoint.parameterize = .ok restricted :=
    applied
  have token : (Handler.ofCodec codec .fresh).strategy.token
      (Entity.ofRecord last) endpoint.model (some endpoint.order) =
        endpoint.tokenAfter codec type last :=
    resumable.defaultToken_eq member
  rw [resumeAfter, token, taken, Fallible.ok_bind, restriction,
    Fallible.ok_bind, executed]
  rfl

theorem unordered_around (resumable : endpoint.Resumable codec type)
    {index : Nat} {last : ρ} (found : endpoint.sorted[index]? = some last) :
    (∀ other ∈ endpoint.sorted.take (index + 1),
        ¬ Precedes endpoint.order last other) ∧
      ∀ other ∈ endpoint.sorted.drop (index + 1),
        ¬ Precedes endpoint.order other last := by
  have ordered := sortRecords_sorted resumable.comparable_order
  change endpoint.sorted.Pairwise _ at ordered
  obtain ⟨inside, rfl⟩ := List.getElem?_eq_some_iff.mp found
  constructor
  · intro other member
    obtain ⟨place, before, rfl⟩ := List.mem_take_iff_getElem.mp member
    rcases Nat.lt_or_eq_of_le (Nat.le_of_lt_succ
      (Nat.lt_of_lt_of_le before (Nat.min_le_left _ _))) with earlier | rfl
    · exact List.pairwise_iff_getElem.mp ordered place index _ inside earlier
    · exact fun precedes => precedes_asymm precedes precedes
  · intro other member
    obtain ⟨offset, before, rfl⟩ := List.mem_drop_iff_getElem.mp member
    exact List.pairwise_iff_getElem.mp ordered index (index + 1 + offset) inside
      _ (by omega)

theorem filter_eq_drop_iff_tiesAscendAround
    (resumable : endpoint.Resumable codec type) {index : Nat} {last : ρ}
    (found : endpoint.sorted[index]? = some last) :
    (endpoint.sorted.filter fun record =>
        Precedes (endpoint.positionOrder type) last record) =
        endpoint.sorted.drop (index + 1) ↔
      endpoint.TiesAscendAround type index last := by
  obtain ⟨notAfter, notBefore⟩ := resumable.unordered_around found
  rw [filter_eq_drop_iff, TiesAscendAround]
  apply and_congr
  · refine forall₂_congr fun other member => ?_
    have unordered := notAfter other member
    rw [decide_eq_false_iff_not, Precedes, positionOrder, compareBy_append,
      Ordering.then_eq_lt]
    rw [Precedes] at unordered
    simp [unordered]
  · refine forall₂_congr fun other member => ?_
    have unordered := notBefore other member
    rw [Precedes, compareBy_swap, Ordering.swap_eq_lt] at unordered
    rw [decide_eq_true_iff, Precedes, positionOrder, compareBy_append,
      Ordering.then_eq_lt]
    cases compared : endpoint.order.compareBy (Record.value last)
        (Record.value other) with
    | lt => simp
    | eq => simp
    | gt => exact absurd compared unordered

/-- Ties are listed in key order everywhere exactly when they are given so. -/
theorem forall_tiesAscendAround_iff
    (resumable : endpoint.Resumable codec type) :
    (∀ index last, endpoint.sorted[index]? = some last →
        endpoint.TiesAscendAround type index last) ↔
      endpoint.TiesAscend type := by
  constructor
  · intro around
    have listed : endpoint.sorted.Pairwise fun earlier later =>
        endpoint.order.compareBy (Record.value earlier) (Record.value later) =
            .eq →
          (ascending type.keys).compareBy (Record.value earlier)
            (Record.value later) ≠ .gt := by
      rw [List.pairwise_iff_getElem]
      intro index place inside placeInside before tie
      have behind : endpoint.sorted[place] ∈
          endpoint.sorted.drop (index + 1) :=
        List.mem_drop_iff_getElem.mpr
          ⟨place - (index + 1), by omega, by congr 1; omega⟩
      rw [(around index _ (List.getElem?_eq_getElem inside)).2 _ behind tie]
      decide
    apply List.pairwise_iff_forall_sublist.mpr
    intro earlier later given tie
    have inOrder := pair_sublist_sortRecords resumable.comparable_order tie given
    exact List.pairwise_iff_forall_sublist.mp listed inOrder tie
  · intro tiesAscend index last found
    rw [← resumable.filter_eq_drop_iff_tiesAscendAround found]
    exact resumable.filter_sorted tiesAscend found

end Resumable

/-- Two players whom no order and no score parts, the later one given first. -/
def newcomers : Endpoint Player :=
  { leaderboard with
    records := [⟨2, none⟩, ⟨1, none⟩]
    order := [] }

theorem eq_id_of_mem_tokenNames {name : String}
    (recorded : name ∈ newcomers.tokenNames playerType) : name = "id" := by
  have names : newcomers.tokenNames playerType = ["id"] := by decide
  rw [names] at recorded
  exact List.mem_singleton.mp recorded

theorem resumable_newcomers : newcomers.Resumable .default playerType where
  element_type := ⟨"demo::Player", rfl, rfl⟩
  record_type := fun _ _ => rfl
  order_static := by decide
  order_distinct := by decide
  names_nonempty := by decide
  keys_distinguish := by decide
  comparable := by
    intro name recorded
    obtain rfl := eq_id_of_mem_tokenNames recorded
    decide
  nameable := by
    intro name recorded
    obtain rfl := eq_id_of_mem_tokenNames recorded
    exact ⟨by decide, by decide, by decide⟩
  recordable := by
    intro record _ name recorded
    obtain rfl := eq_id_of_mem_tokenNames recorded
    trivial

structure Label where
  text : String

instance : Record Label where
  typeName := "demo::Label"
  property? label name :=
    if name = "text" then some (.string label.text) else none

def labelType : EntityType :=
  (EntityType.new "Game" "Label").key "text" .string

/-- Labels in ascending order, one with a field delimiter in its key. -/
def labels : Endpoint Label where
  model := (Model.empty.add (.entity labelType)).bind "demo::Label" "Game.Label"
  elementType? := some "demo::Label"
  records := [⟨"a,b"⟩, ⟨"c"⟩]
  order := []
  pageSize := 1

end Endpoint

end KeysetPaging
