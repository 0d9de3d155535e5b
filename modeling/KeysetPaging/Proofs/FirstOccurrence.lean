import KeysetPaging.Proofs.PropertyMap
import KeysetPaging.Proofs.Token.Strategy
import Mathlib.Data.List.Basic
import Mathlib.Data.List.Induction
import Mathlib.Data.List.Nodup

/-!
# Names in order of first occurrence

The properties of an entity type and the properties that a token records are both
gathered from a list of names in which names may repeat.  Each name is kept once,
in the place where it stands first.  As the list grows by one name, the names kept
stay as they are if the name is among them, and otherwise grow by it as well.
-/

namespace KeysetPaging

/-- The names of a list in the order in which they first stand in it, each
once. -/
structure ListsFirst (listed source : List String) : Prop where
  nodup : listed.Nodup
  mem_iff : ∀ name, name ∈ listed ↔ name ∈ source
  ordered : listed.Pairwise fun earlier later =>
    source.idxOf earlier < source.idxOf later

namespace ListsFirst

variable {listed source : List String} {name : String}

theorem nil : ListsFirst [] [] :=
  ⟨List.nodup_nil, fun _ => Iff.rfl, .nil⟩

/-- More names at the end leave the places of the others alone. -/
theorem ordered_append (lists : ListsFirst listed source)
    (more : List String) :
    listed.Pairwise fun earlier later =>
      (source ++ more).idxOf earlier < (source ++ more).idxOf later := by
  apply lists.ordered.imp_of_mem
  intro earlier later earlierListed laterListed before
  rw [List.idxOf_append_of_mem ((lists.mem_iff _).mp earlierListed),
    List.idxOf_append_of_mem ((lists.mem_iff _).mp laterListed)]
  exact before

theorem append_of_mem (lists : ListsFirst listed source)
    (held : name ∈ source) : ListsFirst listed (source ++ [name]) where
  nodup := lists.nodup
  mem_iff other := by
    rw [lists.mem_iff, List.mem_append, List.mem_singleton]
    constructor
    · exact .inl
    · rintro (member | rfl)
      · exact member
      · exact held
  ordered := lists.ordered_append [name]

theorem append_of_not_mem (lists : ListsFirst listed source)
    (fresh : name ∉ source) :
    ListsFirst (listed ++ [name]) (source ++ [name]) where
  nodup := by
    refine List.nodup_append.mpr ⟨lists.nodup, List.nodup_singleton name, ?_⟩
    rintro other member last lastMember rfl
    rw [List.mem_singleton.mp lastMember] at member
    exact fresh ((lists.mem_iff _).mp member)
  mem_iff other := by
    rw [List.mem_append, List.mem_append, lists.mem_iff]
  ordered := by
    refine List.pairwise_append.mpr
      ⟨lists.ordered_append [name], List.pairwise_singleton _ _, ?_⟩
    intro other member last lastMember
    have held : other ∈ source := (lists.mem_iff _).mp member
    rw [List.mem_singleton.mp lastMember, List.idxOf_append_of_mem held,
      List.idxOf_append_of_notMem fresh]
    exact Nat.lt_add_right _ (List.idxOf_lt_length_of_mem held)

end ListsFirst

theorem PropertyMap.listsFirst_insert {α : Type} {map : PropertyMap α}
    {source : List String} (lists : ListsFirst map.names source)
    (name : String) (value : α) :
    ListsFirst (map.insert name value).names (source ++ [name]) := by
  by_cases held : name ∈ map.names
  · rw [names_insert_of_mem held]
    exact lists.append_of_mem ((lists.mem_iff name).mp held)
  · rw [names_insert_of_not_mem held]
    exact lists.append_of_not_mem fun member =>
      held ((lists.mem_iff name).mpr member)

namespace Strategy

theorem distinct_append_singleton (names : List String) (name : String) :
    distinct (names ++ [name]) =
      if name ∈ names then distinct names else distinct names ++ [name] := by
  induction names with
  | nil => rfl
  | cons first names induction =>
      rw [List.cons_append, distinct, induction, distinct]
      by_cases same : name = first
      · subst same
        by_cases again : name ∈ names
        · simp [again]
        · simp [again]
      · by_cases again : name ∈ names
        · simp [again]
        · simp [again, same]

/-- By induction from the right, since names are added at the end. -/
theorem listsFirst_distinct (names : List String) :
    ListsFirst (distinct names) names := by
  induction names using List.reverseRecOn with
  | nil => exact .nil
  | append_singleton names name induction =>
      rw [distinct_append_singleton]
      by_cases held : name ∈ names
      · rw [if_pos held]
        exact induction.append_of_mem held
      · rw [if_neg held]
        exact induction.append_of_not_mem held

end Strategy

end KeysetPaging
