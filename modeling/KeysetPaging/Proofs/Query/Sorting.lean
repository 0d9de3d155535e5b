import KeysetPaging.Proofs.Query.Order

/-!
# Sorting by insertion

The sort of a query permutes its records.  It respects every relation that
contains the order and, among records that the order does not put the other way
round, the order of the input; taken as the order itself this says that the
outcome is sorted, and taken as a finer order that ties are resolved by the
input.

Where the records are comparable, sorting also commutes with filtering, so a
filtered query lists its records as the whole query does.  In particular two
records that tie are listed in the order in which they are given.
-/

namespace KeysetPaging

namespace SortOrder

theorem compareBy_ne_lt_trans {left middle right : String → Value}
    {order : SortOrder} (outerComparable : order.ComparableOn left right)
    (rightComparable : order.ComparableOn right middle)
    (first : order.compareBy left middle ≠ .lt)
    (second : order.compareBy middle right ≠ .lt) :
    order.compareBy left right ≠ .lt := by
  intro below
  apply first
  cases back : order.compareBy right middle with
  | lt => exact compareBy_lt_trans outerComparable rightComparable below back
  | eq =>
      have equal := (compareBy_eq_eq_iff rightComparable).mp back
      rw [← below]
      refine compareBy_congr (fun _ _ => rfl) fun term member => ?_
      exact (Value.equals_iff_content?.mp (equal term member)).symm
  | gt =>
      rw [compareBy_swap middle right, Ordering.swap_eq_gt] at back
      exact absurd back second

end SortOrder

namespace MemoryQuery

variable {ρ : Type} [Record ρ]

def Precedes (order : SortOrder) (left right : ρ) : Prop :=
  order.compareBy (Record.value left) (Record.value right) = .lt

instance (order : SortOrder) (left right : ρ) :
    Decidable (Precedes order left right) :=
  inferInstanceAs (Decidable (_ = _))

/-- All records have comparable values for every property of an order. -/
def AllComparable (order : SortOrder) (records : List ρ) : Prop :=
  ∀ left ∈ records, ∀ right ∈ records,
    order.ComparableOn (Record.value left) (Record.value right)

theorem precedes_asymm {order : SortOrder} {left right : ρ}
    (precedes : Precedes order left right) : ¬ Precedes order right left := by
  intro back
  rw [Precedes, SortOrder.compareBy_swap, Ordering.swap_eq_lt, precedes] at back
  cases back

theorem not_precedes_trans {order : SortOrder} {records : List ρ}
    (comparable : AllComparable order records) {left middle right : ρ}
    (leftMember : left ∈ records) (middleMember : middle ∈ records)
    (rightMember : right ∈ records) (first : ¬ Precedes order left middle)
    (second : ¬ Precedes order middle right) : ¬ Precedes order left right :=
  SortOrder.compareBy_ne_lt_trans
    (comparable left leftMember right rightMember)
    (comparable right rightMember middle middleMember) first second

theorem insertRecord_of_precedes {order : SortOrder} {record last : ρ}
    (precedes : Precedes order record last) (earlier : List ρ) :
    insertRecord order record (last :: earlier) =
      last :: insertRecord order record earlier :=
  if_pos precedes

theorem insertRecord_of_not_precedes {order : SortOrder} {record last : ρ}
    (follows : ¬ Precedes order record last) (earlier : List ρ) :
    insertRecord order record (last :: earlier) = record :: last :: earlier :=
  if_neg follows

theorem insertRecord_perm (order : SortOrder) (record : ρ) (sorted : List ρ) :
    (insertRecord order record sorted).Perm (record :: sorted) := by
  induction sorted with
  | nil => exact List.Perm.refl _
  | cons last earlier induction =>
      by_cases precedes : Precedes order record last
      · rw [insertRecord_of_precedes precedes]
        exact (induction.cons last).trans (List.Perm.swap record last earlier)
      · rw [insertRecord_of_not_precedes precedes]

theorem foldl_insertRecord_perm (order : SortOrder) (records sorted : List ρ) :
    (records.foldl (fun sorted record => insertRecord order record sorted)
      sorted).Perm (records ++ sorted) := by
  induction records generalizing sorted with
  | nil => exact List.Perm.refl _
  | cons record records induction =>
      exact (induction _).trans
        (((insertRecord_perm order record sorted).append_left records).trans
          List.perm_middle)

theorem sortRecords_perm (order : SortOrder) (records : List ρ) :
    (sortRecords order records).Perm records := by
  have inserted := foldl_insertRecord_perm order records []
  rw [List.append_nil] at inserted
  exact (List.reverse_perm _).trans inserted

/-- Inserting respects a transitive relation that holds from the new record to
the records it precedes, and from all others to it. -/
theorem insertRecord_pairwise {before : ρ → ρ → Prop} {order : SortOrder}
    {record : ρ} {sorted : List ρ}
    (ordered : sorted.Pairwise fun later earlier => before earlier later)
    (strict : ∀ other ∈ sorted, Precedes order record other →
      before record other)
    (stable : ∀ other ∈ sorted, ¬ Precedes order record other →
      before other record)
    (transitive : ∀ first ∈ sorted, ∀ second ∈ sorted,
      before first second → before second record → before first record) :
    (insertRecord order record sorted).Pairwise fun later earlier =>
      before earlier later := by
  induction sorted with
  | nil => exact List.pairwise_singleton _ _
  | cons last earlier induction =>
      obtain ⟨beforeLast, rest⟩ := List.pairwise_cons.mp ordered
      by_cases precedes : Precedes order record last
      · rw [insertRecord_of_precedes precedes]
        refine List.pairwise_cons.mpr ⟨?_, ?_⟩
        · intro other member
          rcases List.mem_cons.mp
            ((insertRecord_perm order record earlier).mem_iff.mp member) with
            rfl | inside
          · exact strict last List.mem_cons_self precedes
          · exact beforeLast other inside
        · refine induction rest ?_ ?_ ?_
          · exact fun other member => strict other (List.mem_cons_of_mem _ member)
          · exact fun other member => stable other (List.mem_cons_of_mem _ member)
          · exact fun first firstMember second secondMember =>
              transitive first (List.mem_cons_of_mem _ firstMember) second
                (List.mem_cons_of_mem _ secondMember)
      · rw [insertRecord_of_not_precedes precedes]
        have lastBefore := stable last List.mem_cons_self precedes
        refine List.pairwise_cons.mpr ⟨?_, ordered⟩
        intro other member
        rcases List.mem_cons.mp member with rfl | inside
        · exact lastBefore
        · exact transitive other (List.mem_cons_of_mem _ inside) last
            List.mem_cons_self (beforeLast other inside) lastBefore

/-- The records inserted so far stay in line while the rest is inserted. -/
theorem foldl_insertRecord_pairwise {before : ρ → ρ → Prop} {order : SortOrder}
    (All : ρ → Prop) (transitive : ∀ first second third, All first →
      All second → All third → before first second → before second third →
        before first third)
    (strict : ∀ left right, All left → All right → Precedes order left right →
      before left right)
    (records sorted : List ρ) (sortedAll : ∀ record ∈ sorted, All record)
    (recordsAll : ∀ record ∈ records, All record)
    (ordered : sorted.Pairwise fun later earlier => before earlier later)
    (crossing : ∀ earlier ∈ sorted, ∀ later ∈ records,
      ¬ Precedes order later earlier → before earlier later)
    (stable : records.Pairwise fun earlier later =>
      ¬ Precedes order later earlier → before earlier later) :
    (records.foldl (fun sorted record => insertRecord order record sorted)
      sorted).Pairwise fun later earlier => before earlier later := by
  induction records generalizing sorted with
  | nil => exact ordered
  | cons record records induction =>
      have recordAll := recordsAll record List.mem_cons_self
      have restAll : ∀ other ∈ records, All other :=
        fun other member => recordsAll other (List.mem_cons_of_mem _ member)
      obtain ⟨recordStable, restStable⟩ := List.pairwise_cons.mp stable
      refine induction _ ?_ restAll ?_ ?_ restStable
      · intro other member
        rcases List.mem_cons.mp
          ((insertRecord_perm order record sorted).mem_iff.mp member) with
          rfl | inside
        · exact recordAll
        · exact sortedAll other inside
      · refine insertRecord_pairwise ordered ?_ ?_ ?_
        · exact fun other member => strict record other recordAll
            (sortedAll other member)
        · exact fun other member => crossing other member record
            List.mem_cons_self
        · exact fun first firstMember second secondMember =>
            transitive first second record (sortedAll first firstMember)
              (sortedAll second secondMember) recordAll
      · intro earlier member later laterMember
        rcases List.mem_cons.mp
          ((insertRecord_perm order record sorted).mem_iff.mp member) with
          rfl | inside
        · exact recordStable later laterMember
        · exact crossing earlier inside later
            (List.mem_cons_of_mem _ laterMember)

/-- The outcome of sorting respects a relation that contains the order and, for
records not in order the other way round, the order of the input. -/
theorem sortRecords_pairwise {before : ρ → ρ → Prop} {order : SortOrder}
    {records : List ρ}
    (transitive : ∀ first ∈ records, ∀ second ∈ records, ∀ third ∈ records,
      before first second → before second third → before first third)
    (strict : ∀ left ∈ records, ∀ right ∈ records, Precedes order left right →
      before left right)
    (stable : records.Pairwise fun earlier later =>
      ¬ Precedes order later earlier → before earlier later) :
    (sortRecords order records).Pairwise before := by
  rw [sortRecords, List.pairwise_reverse]
  refine foldl_insertRecord_pairwise (· ∈ records) ?_ ?_ records []
    (by simp) (fun _ member => member) List.Pairwise.nil (by simp) stable
  · exact fun first second third firstMember secondMember thirdMember =>
      transitive first firstMember second secondMember third thirdMember
  · exact fun left right leftMember rightMember =>
      strict left leftMember right rightMember

theorem sortRecords_sorted {order : SortOrder} {records : List ρ}
    (comparable : AllComparable order records) :
    (sortRecords order records).Pairwise fun earlier later =>
      ¬ Precedes order later earlier := by
  refine sortRecords_pairwise ?_ ?_ ?_
  · intro first firstMember second secondMember third thirdMember below above
    exact not_precedes_trans comparable thirdMember secondMember firstMember
      above below
  · exact fun left _ right _ => precedes_asymm
  · exact List.pairwise_of_forall fun _ _ => id

theorem insertRecord_of_forall {order : SortOrder} {record : ρ}
    {sorted : List ρ}
    (follows : ∀ other ∈ sorted, ¬ Precedes order record other) :
    insertRecord order record sorted = record :: sorted := by
  cases sorted with
  | nil => rfl
  | cons last earlier =>
      exact insertRecord_of_not_precedes (follows last List.mem_cons_self) _

theorem filter_insertRecord_of_dropped {keep : ρ → Bool} {record : ρ}
    (dropped : keep record = false) (order : SortOrder) (sorted : List ρ) :
    (insertRecord order record sorted).filter keep = sorted.filter keep := by
  induction sorted with
  | nil => simp [insertRecord, dropped]
  | cons last earlier induction =>
      by_cases precedes : Precedes order record last
      · rw [insertRecord_of_precedes precedes, List.filter_cons,
          List.filter_cons, induction]
      · rw [insertRecord_of_not_precedes precedes,
          List.filter_cons_of_neg (by simp [dropped])]

/-- A kept record goes to the same place among the kept ones. -/
theorem filter_insertRecord_of_kept {keep : ρ → Bool} {record : ρ}
    (kept : keep record = true) {order : SortOrder} {sorted : List ρ}
    (ordered : sorted.Pairwise fun later earlier =>
      ¬ Precedes order later earlier)
    (transitive : ∀ first ∈ sorted, ∀ second ∈ sorted,
      ¬ Precedes order record first → ¬ Precedes order first second →
        ¬ Precedes order record second) :
    (insertRecord order record sorted).filter keep =
      insertRecord order record (sorted.filter keep) := by
  induction sorted with
  | nil => simp [insertRecord, kept]
  | cons last earlier induction =>
      obtain ⟨lastAfter, rest⟩ := List.pairwise_cons.mp ordered
      by_cases precedes : Precedes order record last
      · have inner := induction rest fun first firstMember second secondMember =>
          transitive first (List.mem_cons_of_mem _ firstMember) second
            (List.mem_cons_of_mem _ secondMember)
        rw [insertRecord_of_precedes precedes]
        by_cases keepLast : keep last = true
        · rw [List.filter_cons_of_pos keepLast, List.filter_cons_of_pos keepLast,
            insertRecord_of_precedes precedes, inner]
        · rw [List.filter_cons_of_neg keepLast, List.filter_cons_of_neg keepLast,
            inner]
      · rw [insertRecord_of_not_precedes precedes, List.filter_cons_of_pos kept]
        refine (insertRecord_of_forall fun other member => ?_).symm
        rcases List.mem_cons.mp (List.mem_of_mem_filter member) with
          rfl | inside
        · exact precedes
        · exact transitive last List.mem_cons_self other
            (List.mem_cons_of_mem _ inside) precedes (lastAfter other inside)

theorem filter_foldl_insertRecord {order : SortOrder} {all : List ρ}
    (comparable : AllComparable order all) (keep : ρ → Bool)
    (records sorted : List ρ) (sortedMember : ∀ record ∈ sorted, record ∈ all)
    (recordsMember : ∀ record ∈ records, record ∈ all)
    (ordered : sorted.Pairwise fun later earlier =>
      ¬ Precedes order later earlier) :
    (records.foldl (fun sorted record => insertRecord order record sorted)
        sorted).filter keep =
      (records.filter keep).foldl
        (fun sorted record => insertRecord order record sorted)
        (sorted.filter keep) := by
  induction records generalizing sorted with
  | nil => rfl
  | cons record records induction =>
      have recordMember := recordsMember record List.mem_cons_self
      have restMember : ∀ other ∈ records, other ∈ all :=
        fun other member =>
          recordsMember other (List.mem_cons_of_mem _ member)
      have insertedMember : ∀ other ∈ insertRecord order record sorted,
          other ∈ all := by
        intro other member
        rcases List.mem_cons.mp
          ((insertRecord_perm order record sorted).mem_iff.mp member) with
          rfl | inside
        · exact recordMember
        · exact sortedMember other inside
      have stillOrdered : (insertRecord order record sorted).Pairwise
          fun later earlier => ¬ Precedes order later earlier := by
        refine insertRecord_pairwise ordered (fun _ _ => precedes_asymm)
          (fun _ _ => id) ?_
        intro first firstMember second secondMember below above
        exact not_precedes_trans comparable recordMember
          (sortedMember second secondMember) (sortedMember first firstMember)
          above below
      have rest := induction (insertRecord order record sorted) insertedMember
        restMember stillOrdered
      rw [List.foldl_cons, rest]
      by_cases kept : keep record = true
      · rw [List.filter_cons_of_pos kept, List.foldl_cons,
          filter_insertRecord_of_kept kept ordered]
        intro first firstMember second secondMember
        exact not_precedes_trans comparable recordMember
          (sortedMember first firstMember) (sortedMember second secondMember)
      · rw [List.filter_cons_of_neg kept,
          filter_insertRecord_of_dropped (Bool.not_eq_true _ ▸ kept)]

theorem filter_sortRecords {order : SortOrder} {records : List ρ}
    (comparable : AllComparable order records) (keep : ρ → Bool) :
    (sortRecords order records).filter keep =
      sortRecords order (records.filter keep) := by
  rw [sortRecords, sortRecords, List.filter_reverse]
  congr 1
  exact filter_foldl_insertRecord comparable keep records [] (by simp)
    (fun _ member => member) List.Pairwise.nil

theorem foldl_insertRecord_of_pairwise {order : SortOrder}
    (records sorted : List ρ)
    (crossing : ∀ earlier ∈ sorted, ∀ later ∈ records,
      ¬ Precedes order later earlier)
    (ordered : records.Pairwise fun earlier later =>
      ¬ Precedes order later earlier) :
    records.foldl (fun sorted record => insertRecord order record sorted)
      sorted = records.reverse ++ sorted := by
  induction records generalizing sorted with
  | nil => rfl
  | cons record records induction =>
      obtain ⟨afterRecord, rest⟩ := List.pairwise_cons.mp ordered
      have inserted : insertRecord order record sorted = record :: sorted :=
        insertRecord_of_forall fun earlier member =>
          crossing earlier member record List.mem_cons_self
      rw [List.foldl_cons, inserted, induction (record :: sorted) ?_ rest,
        List.reverse_cons, List.append_assoc, List.singleton_append]
      intro earlier member later laterMember
      rcases List.mem_cons.mp member with rfl | inside
      · exact afterRecord later laterMember
      · exact crossing earlier inside later (List.mem_cons_of_mem _ laterMember)

theorem sortRecords_of_pairwise {order : SortOrder} {records : List ρ}
    (ordered : records.Pairwise fun earlier later =>
      ¬ Precedes order later earlier) :
    sortRecords order records = records := by
  rw [sortRecords, foldl_insertRecord_of_pairwise records [] (by simp) ordered,
    List.append_nil, List.reverse_reverse]

/-- An order ties two records. -/
def Ties (order : SortOrder) (left right : ρ) : Prop :=
  order.compareBy (Record.value left) (Record.value right) = .eq

instance (order : SortOrder) (left right : ρ) :
    Decidable (Ties order left right) :=
  inferInstanceAs (Decidable (_ = _))

/-- The sorted records that tie with one of them are listed as they are
given. -/
theorem filter_ties_sortRecords {order : SortOrder} {records : List ρ}
    (comparable : AllComparable order records) {record : ρ}
    (member : record ∈ records) :
    (sortRecords order records).filter (Ties order record ·) =
      records.filter (Ties order record ·) := by
  have unordered : (records.filter (Ties order record ·)).Pairwise
      fun left right => ¬ Precedes order right left := by
    apply List.pairwise_of_forall_mem_list
    intro left leftKept right rightKept
    obtain ⟨leftMember, leftTies⟩ := List.mem_filter.mp leftKept
    obtain ⟨rightMember, rightTies⟩ := List.mem_filter.mp rightKept
    have leftTie : Ties order record left := of_decide_eq_true leftTies
    have rightTie : Ties order record right := of_decide_eq_true rightTies
    apply not_precedes_trans comparable rightMember member leftMember
    · rw [Precedes, SortOrder.compareBy_swap, rightTie]
      decide
    · rw [Precedes, leftTie]
      decide
  rw [filter_sortRecords comparable, sortRecords_of_pairwise unordered]

/-- Of two records that tie, the sorted records list that first which is given
first. -/
theorem pair_sublist_sortRecords {order : SortOrder} {records : List ρ}
    (comparable : AllComparable order records) {earlier later : ρ}
    (tie : order.compareBy (Record.value earlier) (Record.value later) = .eq)
    (given : [earlier, later].Sublist records) :
    [earlier, later].Sublist (sortRecords order records) := by
  have member : earlier ∈ records := given.subset List.mem_cons_self
  have both : [earlier, later].filter (Ties order earlier ·) =
      [earlier, later] := by
    simp [Ties, SortOrder.compareBy_self, tie]
  have amongTied : [earlier, later].Sublist
      (records.filter (Ties order earlier ·)) := by
    rw [← both]
    exact given.filter _
  rw [← filter_ties_sortRecords comparable member] at amongTied
  exact amongTied.trans List.filter_sublist

omit [Record ρ] in
/-- A filter leaves what follows a place of a list when it holds there and
nowhere before. -/
theorem filter_eq_drop_iff {keep : ρ → Bool} {records : List ρ} {place : Nat} :
    records.filter keep = records.drop place ↔
      (∀ record ∈ records.take place, keep record = false) ∧
        ∀ record ∈ records.drop place, keep record = true := by
  have parts : records.filter keep =
      (records.take place).filter keep ++ (records.drop place).filter keep := by
    rw [← List.filter_append, List.take_append_drop]
  constructor
  · intro same
    have kept : ∀ record ∈ records.drop place, keep record = true := by
      intro record member
      rw [← same] at member
      exact List.of_mem_filter member
    rw [same, List.filter_eq_self.mpr kept, List.self_eq_append_left,
      List.filter_eq_nil_iff] at parts
    exact ⟨fun record member => by simpa using parts record member, kept⟩
  · rintro ⟨dropped, kept⟩
    have noneBefore : (records.take place).filter keep = [] :=
      List.filter_eq_nil_iff.mpr fun record member => by
        simp [dropped record member]
    rw [parts, noneBefore, List.filter_eq_self.mpr kept, List.nil_append]

omit [Record ρ] in
/-- In a list in line with a strict order, what comes after an entry in the
order is what follows it in the list. -/
theorem filter_eq_drop_of_pairwise {before : ρ → ρ → Prop} {records : List ρ}
    (ordered : records.Pairwise before)
    (asymmetric : ∀ left ∈ records, ∀ right ∈ records, before left right →
      ¬ before right left)
    {index : Nat} {record : ρ} (found : records[index]? = some record)
    {keep : ρ → Bool}
    (keepsAfter : ∀ other ∈ records, keep other = true ↔ before record other) :
    records.filter keep = records.drop (index + 1) := by
  induction records generalizing index with
  | nil => cases found
  | cons first records induction =>
      obtain ⟨afterFirst, rest⟩ := List.pairwise_cons.mp ordered
      cases index with
      | zero =>
          cases found
          have dropped : ¬ keep record = true := by
            rw [keepsAfter record List.mem_cons_self]
            intro reflexive
            exact asymmetric record List.mem_cons_self record List.mem_cons_self
              reflexive reflexive
          rw [List.filter_cons_of_neg dropped, List.drop_one, List.tail_cons]
          refine List.filter_eq_self.mpr fun other member => ?_
          exact (keepsAfter other (List.mem_cons_of_mem _ member)).mpr
            (afterFirst other member)
      | succ index =>
          have inRest : record ∈ records := List.mem_of_getElem? found
          have dropped : ¬ keep first = true := by
            rw [keepsAfter first List.mem_cons_self]
            exact asymmetric first List.mem_cons_self record
              (List.mem_cons_of_mem _ inRest) (afterFirst record inRest)
          rw [List.filter_cons_of_neg dropped, List.drop_succ_cons]
          refine induction rest ?_ found ?_
          · exact fun left leftMember right rightMember =>
              asymmetric left (List.mem_cons_of_mem _ leftMember) right
                (List.mem_cons_of_mem _ rightMember)
          · exact fun other member =>
              keepsAfter other (List.mem_cons_of_mem _ member)

end MemoryQuery

end KeysetPaging
