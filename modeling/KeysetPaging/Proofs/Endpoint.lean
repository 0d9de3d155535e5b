import KeysetPaging.Proofs.Keyset.Order
import KeysetPaging.Proofs.Query.Memory
import KeysetPaging.Proofs.Token.RoundTrip
import KeysetPaging.Walk

/-!
# Endpoints that can be paged

What resuming and paging demand of an endpoint, and what follows for its
records.  The token of a record is read as the position that the record has in
the order of the query followed by the keys ascending.  Paging demands more than
resuming: the sorted records have to be strictly ordered by their positions.
For that the keys have to tell records apart, and records that the query does
not order have to be given in key order.
-/

namespace KeysetPaging

namespace Endpoint

open SortOrder MemoryQuery

variable {ρ : Type} [Record ρ]

def sorted (endpoint : Endpoint ρ) : List ρ :=
  sortRecords endpoint.order endpoint.records

def tokenNames (endpoint : Endpoint ρ) (type : EntityType) : List String :=
  Strategy.recordedNames type endpoint.order

/-- The order of the positions that tokens describe. -/
def positionOrder (endpoint : Endpoint ρ) (type : EntityType) : SortOrder :=
  endpoint.order ++ ascending type.keys

/-- Records that tie on the order are given in ascending key order. -/
def TiesAscend (endpoint : Endpoint ρ) (type : EntityType) : Prop :=
  endpoint.records.Pairwise fun earlier later =>
    endpoint.order.compareBy (Record.value earlier) (Record.value later) = .eq →
      (ascending type.keys).compareBy (Record.value earlier)
        (Record.value later) ≠ .gt

instance (endpoint : Endpoint ρ) (type : EntityType) :
    Decidable (endpoint.TiesAscend type) :=
  inferInstanceAs (Decidable (endpoint.records.Pairwise _))

/-- What it takes to identify the records of an endpoint by tokens: they are of
one entity type, whose keys tell them apart, the order sorts by declared
properties, each of them once, and what is recorded can be read back. -/
structure Identifiable (endpoint : Endpoint ρ) (codec : Codec)
    (type : EntityType) : Prop where
  element_type : ∃ elementType, endpoint.elementType? = some elementType ∧
    endpoint.model.entityType? elementType = some type
  record_type : ∀ record ∈ endpoint.records,
    endpoint.model.entityType? (Record.reportedName record) = some type
  order_static : ∀ term ∈ endpoint.order, term.isDynamic = false
  order_distinct : (endpoint.order.map SortTerm.name).Nodup
  /-- Any two records differ on some key. -/
  keys_distinguish : endpoint.records.Pairwise fun left right =>
    ∃ key ∈ type.keys,
      (Record.value left key).equals (Record.value right key) = false
  nameable : ∀ name ∈ endpoint.tokenNames type, codec.CanName name
  recordable : ∀ record ∈ endpoint.records, ∀ name ∈ endpoint.tokenNames type,
    codec.CanRecord endpoint.model (Record.reportedName record) name
      (Record.value record name)

/-- What resuming after a record demands of an endpoint whose records are of an
entity type: that the positions of its records can be told and recorded. -/
structure Resumable (endpoint : Endpoint ρ) (codec : Codec)
    (type : EntityType) : Prop extends endpoint.Identifiable codec type where
  names_nonempty : endpoint.tokenNames type ≠ []
  comparable : ∀ name ∈ endpoint.tokenNames type,
    ∀ left ∈ endpoint.records, ∀ right ∈ endpoint.records,
      (Record.value left name).Comparable (Record.value right name)

/-- What paging demands of an endpoint whose records are of an entity type. -/
structure Pageable (endpoint : Endpoint ρ) (codec : Codec)
    (type : EntityType) : Prop extends endpoint.Identifiable codec type where
  pageSize_pos : 0 < endpoint.pageSize
  keys_nonempty : type.keys ≠ []
  /-- Each recorded property holds nulls and values of one kind. -/
  one_kind : ∀ name ∈ endpoint.tokenNames type, ∃ kind,
    ∀ record ∈ endpoint.records,
      Record.value record name = .null ∨
        (Record.value record name).kind? = some kind
  ties_ascend : endpoint.TiesAscend type

section

variable {endpoint : Endpoint ρ} {codec : Codec} {type : EntityType}

omit [Record ρ] in
theorem mem_tokenNames_of_order {term : SortTerm}
    (member : term ∈ endpoint.order) :
    term.name ∈ endpoint.tokenNames type :=
  Strategy.mem_distinct.mpr
    (List.mem_append_left _ (List.mem_map.mpr ⟨term, member, rfl⟩))

omit [Record ρ] in
theorem mem_tokenNames_of_keys {key : String} (member : key ∈ type.keys) :
    key ∈ endpoint.tokenNames type :=
  Strategy.mem_distinct.mpr (List.mem_append_right _ member)

theorem mem_sorted {record : ρ} :
    record ∈ endpoint.sorted ↔ record ∈ endpoint.records :=
  (sortRecords_perm endpoint.order endpoint.records).mem_iff

theorem length_sorted : endpoint.sorted.length = endpoint.records.length :=
  (sortRecords_perm endpoint.order endpoint.records).length_eq

theorem execute_query : endpoint.query.execute = .ok endpoint.sorted :=
  execute_of_unfiltered rfl

end

/-- The token of the page that ends at a record. -/
def tokenAfter (endpoint : Endpoint ρ) (codec : Codec) (type : EntityType)
    (last : ρ) : List Char :=
  codec.encode (Entity.ofRecord last) (endpoint.tokenNames type)

namespace Identifiable

variable {endpoint : Endpoint ρ} {codec : Codec} {type : EntityType}

theorem defaultToken_eq (identifiable : endpoint.Identifiable codec type)
    {last : ρ} (member : last ∈ endpoint.records) :
    Strategy.defaultToken codec (Entity.ofRecord last) endpoint.model
        (some endpoint.order) = endpoint.tokenAfter codec type last :=
  Strategy.defaultToken_of_static (identifiable.record_type last member)
    identifiable.order_static

/-- The token of a record is read as the position of the record. -/
theorem exists_decode_tokenAfter
    (identifiable : endpoint.Identifiable codec type) {last : ρ}
    (member : last ∈ endpoint.records) :
    ∃ values,
      codec.decode (endpoint.tokenAfter codec type last)
          endpoint.tokenContext = .ok values ∧
        values.names = endpoint.tokenNames type ∧
          ∀ field ∈ values.entries,
            (Record.value last field.1).identical field.2 = true := by
  obtain ⟨elementType, bound, elementResolved⟩ := identifiable.element_type
  have sameType : endpoint.model.resolve? elementType =
      endpoint.model.resolve? (Record.reportedName last) := by
    rw [Model.entityType?_eq_some_iff.mp elementResolved,
      Model.entityType?_eq_some_iff.mp
        (identifiable.record_type last member)]
  refine Codec.exists_decode_encode codec bound (Strategy.nodup_distinct _)
    identifiable.nameable ?_
  intro name recorded
  exact (identifiable.recordable last member name
    recorded).of_resolve?_eq sameType

end Identifiable

namespace Resumable

variable {endpoint : Endpoint ρ} {codec : Codec} {type : EntityType}

theorem comparable_positions (resumable : endpoint.Resumable codec type) :
    AllComparable (endpoint.positionOrder type) endpoint.records := by
  intro left leftMember right rightMember term member
  rcases List.mem_append.mp member with ordered | key
  · exact resumable.comparable term.name (mem_tokenNames_of_order ordered) left
      leftMember right rightMember
  · obtain ⟨name, isKey, rfl⟩ := List.mem_map.mp key
    exact resumable.comparable name (mem_tokenNames_of_keys isKey) left
      leftMember right rightMember

theorem comparable_order (resumable : endpoint.Resumable codec type) :
    AllComparable endpoint.order endpoint.records :=
  fun left leftMember right rightMember term member =>
    resumable.comparable_positions left leftMember right rightMember term
      (List.mem_append_left _ member)

theorem comparable_keys (resumable : endpoint.Resumable codec type) :
    AllComparable (ascending type.keys) endpoint.records :=
  fun left leftMember right rightMember term member =>
    resumable.comparable_positions left leftMember right rightMember term
      (List.mem_append_right _ member)

/-- Of two records the earlier comes first, unless the order has it otherwise. -/
theorem precedes_of_input (resumable : endpoint.Resumable codec type)
    (tiesAscend : endpoint.TiesAscend type) :
    endpoint.records.Pairwise fun earlier later =>
      ¬ Precedes endpoint.order later earlier →
        Precedes (endpoint.positionOrder type) earlier later := by
  refine (resumable.keys_distinguish.and tiesAscend).imp_of_mem ?_
  intro earlier later earlierMember laterMember told notBefore
  obtain ⟨⟨key, isKey, different⟩, ascend⟩ := told
  rw [Precedes, positionOrder, compareBy_append, Ordering.then_eq_lt]
  cases compared : endpoint.order.compareBy (Record.value earlier)
      (Record.value later) with
  | lt => exact .inl rfl
  | gt =>
      rw [Precedes, compareBy_swap, Ordering.swap_eq_lt] at notBefore
      exact absurd compared notBefore
  | eq =>
      refine .inr ⟨rfl, ?_⟩
      cases keys : (ascending type.keys).compareBy (Record.value earlier)
          (Record.value later) with
      | lt => rfl
      | gt => exact absurd keys (ascend compared)
      | eq =>
          have equal := (compareBy_eq_eq_iff (resumable.comparable_keys earlier
            earlierMember later laterMember)).mp keys
          have same := equal ⟨key, .ascending, false⟩
            (List.mem_map.mpr ⟨key, isKey, rfl⟩)
          rw [different] at same
          cases same

theorem sorted_pairwise (resumable : endpoint.Resumable codec type)
    (tiesAscend : endpoint.TiesAscend type) :
    endpoint.sorted.Pairwise (Precedes (endpoint.positionOrder type)) := by
  have comparable := resumable.comparable_positions
  refine sortRecords_pairwise ?_ ?_ (resumable.precedes_of_input tiesAscend)
  · intro first firstMember second secondMember third thirdMember
    exact compareBy_lt_trans
      (comparable first firstMember second secondMember)
      (comparable second secondMember third thirdMember)
  · intro left _ right _ precedes
    rw [Precedes, positionOrder, compareBy_append, Ordering.then_eq_lt]
    exact .inl precedes

theorem filter_sorted (resumable : endpoint.Resumable codec type)
    (tiesAscend : endpoint.TiesAscend type) {index : Nat} {last : ρ}
    (found : endpoint.sorted[index]? = some last) :
    (endpoint.sorted.filter fun record =>
        Precedes (endpoint.positionOrder type) last record) =
      endpoint.sorted.drop (index + 1) := by
  refine filter_eq_drop_of_pairwise
    (resumable.sorted_pairwise tiesAscend) ?_ found ?_
  · exact fun _ _ _ _ => precedes_asymm
  · exact fun record _ => decide_eq_true_iff

theorem isEmpty_eq_false_of_names (resumable : endpoint.Resumable codec type)
    {values : PropertyMap Value}
    (names : values.names = endpoint.tokenNames type) :
    values.isEmpty = false := by
  have named := resumable.names_nonempty
  rw [← names] at named
  simpa [PropertyMap.isEmpty, PropertyMap.names] using named

/-- Restricted to what comes after the position of a record, the query lists the
records that come after it in the order of positions. -/
theorem exists_execute_applyTo (resumable : endpoint.Resumable codec type)
    {last : ρ} (member : last ∈ endpoint.records) {values : PropertyMap Value}
    (names : values.names = endpoint.tokenNames type)
    (records : ∀ field ∈ values.entries,
      (Record.value last field.1).identical field.2 = true) :
    ∃ restricted,
      Keyset.applyTo endpoint.query values endpoint.order
          endpoint.parameterize = .ok restricted ∧
        restricted.execute = .ok (endpoint.sorted.filter fun record =>
          Precedes (endpoint.positionOrder type) last record) := by
  have isTyped : endpoint.query.elementType?.isNone = false := rfl
  have nonempty := resumable.isEmpty_eq_false_of_names names
  obtain ⟨restricted, keep, applied, keepsAfter, executed⟩ :=
    MemoryQuery.exists_execute_applyTo nonempty isTyped rfl
      resumable.comparable_order endpoint.order endpoint.parameterize
  refine ⟨restricted, applied, ?_⟩
  rw [executed]
  congr 1
  refine List.filter_congr fun record listed => ?_
  have recordMember : record ∈ endpoint.records := mem_sorted.mp listed
  rw [Bool.eq_iff_iff, keepsAfter record, decide_eq_true_iff]
  exact Keyset.isAfter_iff_compareBy_append resumable.order_static
    resumable.order_distinct names records
    (resumable.comparable_positions last member record recordMember)

end Resumable

namespace Pageable

variable {endpoint : Endpoint ρ} {codec : Codec} {type : EntityType}

theorem resumable (pageable : endpoint.Pageable codec type) :
    endpoint.Resumable codec type where
  toIdentifiable := pageable.toIdentifiable
  names_nonempty := by
    obtain ⟨key, isKey⟩ := List.exists_mem_of_ne_nil _ pageable.keys_nonempty
    exact List.ne_nil_of_mem (mem_tokenNames_of_keys isKey)
  comparable := by
    intro name recorded left leftMember right rightMember
    obtain ⟨kind, ofKind⟩ := pageable.one_kind name recorded
    exact Value.comparable_of_kind (ofKind left leftMember)
      (ofKind right rightMember)

end Pageable

end Endpoint

end KeysetPaging
