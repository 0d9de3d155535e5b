import KeysetPaging.PropertyMap
import Mathlib.Data.List.Nodup

/-!
# Looking up and inserting

An insertion of a new name appends to a property map, so a map made from a list
of distinct names is that list, and looking a name up finds the one entry that
has it.  The names in their order and the values under them make up a map.  So
inserting the entries of one map into another comes to two laws, one for the
order of the names and one for the values.
-/

namespace KeysetPaging.PropertyMap

variable {α : Type}

theorem put_of_not_mem {name : String} {entries : List (String × α)}
    (absent : name ∉ entries.map Prod.fst) (value : α) :
    put name value entries = entries ++ [(name, value)] := by
  induction entries with
  | nil => rfl
  | cons entry entries induction =>
      have different : entry.1 ≠ name := by
        rintro rfl
        exact absent (by simp)
      have rest : name ∉ entries.map Prod.fst :=
        fun member => absent (List.mem_cons_of_mem _ member)
      rw [put, if_neg different, induction rest, List.cons_append]

theorem insertAll_cons (map : PropertyMap α) (pair : String × α)
    (pairs : List (String × α)) :
    map.insertAll (pair :: pairs) =
      (map.insert pair.1 pair.2).insertAll pairs := rfl

theorem entries_insertAll (map : PropertyMap α) {pairs : List (String × α)}
    (distinct : (map.names ++ pairs.map Prod.fst).Nodup) :
    (map.insertAll pairs).entries = map.entries ++ pairs := by
  induction pairs generalizing map with
  | nil => simp [insertAll]
  | cons pair pairs induction =>
      have absent : pair.1 ∉ map.names := by
        intro member
        exact (List.nodup_append.mp distinct).2.2 pair.1 member pair.1
          List.mem_cons_self rfl
      have appended : (map.insert pair.1 pair.2).entries = map.entries ++ [pair] :=
        put_of_not_mem absent pair.2
      have stillDistinct : ((map.insert pair.1 pair.2).names ++
          pairs.map Prod.fst).Nodup := by
        rw [names, appended]
        simpa [names] using distinct
      rw [insertAll_cons, induction _ stillDistinct, appended, List.append_assoc,
        List.singleton_append]

theorem entries_ofList {pairs : List (String × α)}
    (distinct : (pairs.map Prod.fst).Nodup) : (ofList pairs).entries = pairs :=
  entries_insertAll empty distinct

theorem mem_names_iff {map : PropertyMap α} {name : String} :
    name ∈ map.names ↔ ∃ value, (name, value) ∈ map.entries := by
  simp [names]

theorem get?_eq_none {map : PropertyMap α} {name : String}
    (absent : name ∉ map.names) : map.get? name = none := by
  have missed : map.entries.find? (·.1 == name) = none := by
    rw [List.find?_eq_none]
    intro entry member same
    exact absent (List.mem_map.mpr ⟨entry, member, beq_iff_eq.mp same⟩)
  rw [get?, missed, Option.map_none]

theorem map_find?_eq_some_iff {entries : List (String × α)}
    (distinct : (entries.map Prod.fst).Nodup) {name : String} {value : α} :
    (entries.find? (·.1 == name)).map Prod.snd = some value ↔
      (name, value) ∈ entries := by
  constructor
  · intro lookedUp
    obtain ⟨entry, found, rfl⟩ := Option.map_eq_some_iff.mp lookedUp
    have same := List.find?_some found
    obtain rfl : entry.1 = name := beq_iff_eq.mp same
    exact List.mem_of_find?_eq_some found
  · intro member
    induction entries with
    | nil => cases member
    | cons entry entries induction =>
        obtain ⟨fresh, rest⟩ := List.nodup_cons.mp distinct
        rcases List.mem_cons.mp member with rfl | inRest
        · simp
        · have different : entry.1 ≠ name := by
            rintro rfl
            exact fresh (List.mem_map.mpr ⟨_, inRest, rfl⟩)
          rw [List.find?_cons_of_neg (by simpa using different)]
          exact induction rest inRest

theorem get?_eq_some_iff {map : PropertyMap α} {name : String} {value : α} :
    map.get? name = some value ↔ (name, value) ∈ map.entries :=
  map_find?_eq_some_iff map.names_nodup

theorem find?_put (name other : String) (value : α)
    (entries : List (String × α)) :
    (put name value entries).find? (·.1 == other) =
      if name = other then some (name, value)
      else entries.find? (·.1 == other) := by
  induction entries with
  | nil =>
      by_cases same : name = other
      · simp [put, same]
      · simp [put, same]
  | cons entry entries induction =>
      by_cases here : entry.1 = name
      · by_cases same : name = other
        · simp [put, here, same]
        · simp [put, here, same]
      · by_cases found : entry.1 = other
        · have different : ¬ name = other :=
            fun same => here (found.trans same.symm)
          have first : (entry.1 == other) = true := beq_iff_eq.mpr found
          simp only [put, here, different, if_false, List.find?_cons, first]
        · simp [put, here, found, induction]

theorem get?_insert (map : PropertyMap α) (name other : String) (value : α) :
    (map.insert name value).get? other =
      if name = other then some value else map.get? other := by
  have found := find?_put name other value map.entries
  rw [get?, insert, found, apply_ite (Option.map Prod.snd)]
  rfl

/-- Of the pairs with one name the last one counts. -/
theorem get?_insertAll_of_pairs (map : PropertyMap α)
    (pairs : List (String × α)) (name : String) :
    (map.insertAll pairs).get? name =
      ((pairs.reverse.find? (·.1 == name)).map Prod.snd).or
        (map.get? name) := by
  induction pairs generalizing map with
  | nil => rfl
  | cons pair pairs induction =>
      rw [insertAll_cons, induction, get?_insert, List.reverse_cons,
        List.find?_append, Option.map_or, Option.or_assoc]
      congr 1
      by_cases same : pair.1 = name
      · simp [same]
      · simp [same]

theorem get?_ofList (pairs : List (String × α)) (name : String) :
    (ofList pairs).get? name =
      (pairs.reverse.find? (·.1 == name)).map Prod.snd :=
  (get?_insertAll_of_pairs empty pairs name).trans Option.or_none

theorem mem_of_mem_put {name : String} {value : α} {entry : String × α}
    {entries : List (String × α)} (member : entry ∈ put name value entries) :
    entry = (name, value) ∨ entry ∈ entries := by
  induction entries with
  | nil => exact .inl (List.mem_singleton.mp member)
  | cons first entries induction =>
      by_cases here : first.1 = name
      · simp only [put, here, if_true, List.mem_cons] at member
        rcases member with new | rest
        · exact .inl new
        · exact .inr (List.mem_cons_of_mem _ rest)
      · simp only [put, here, if_false, List.mem_cons] at member
        rcases member with old | rest
        · exact .inr (by simp [old])
        · rcases induction rest with new | old
          · exact .inl new
          · exact .inr (List.mem_cons_of_mem _ old)

theorem names_insert_of_mem {map : PropertyMap α} {name : String}
    (held : name ∈ map.names) (value : α) :
    (map.insert name value).names = map.names :=
  (names_insert map name value).trans (if_pos held)

theorem names_insert_of_not_mem {map : PropertyMap α} {name : String}
    (absent : name ∉ map.names) (value : α) :
    (map.insert name value).names = map.names ++ [name] :=
  (names_insert map name value).trans (if_neg absent)

theorem entries_eq_filterMap (map : PropertyMap α) :
    map.entries = map.names.filterMap fun name =>
      (map.get? name).map fun value => (name, value) := by
  have found : ∀ entry ∈ map.entries,
      (map.get? entry.1).map (fun value => (entry.1, value)) = some entry := by
    intro entry member
    rw [get?_eq_some_iff.mpr member, Option.map_some]
  rw [names]
  generalize map.entries = entries at found
  induction entries with
  | nil => rfl
  | cons entry entries induction =>
      have first := found entry List.mem_cons_self
      have rest := induction fun other member =>
        found other (List.mem_cons_of_mem _ member)
      simp only [List.map_cons, List.filterMap_cons, first, ← rest]

theorem eq_of_names_of_get? {left right : PropertyMap α}
    (names : left.names = right.names)
    (values : ∀ name, left.get? name = right.get? name) : left = right := by
  have entries : left.entries = right.entries := by
    rw [entries_eq_filterMap left, entries_eq_filterMap right, names]
    simp only [values]
  cases left
  cases right
  cases entries
  rfl

theorem names_insertAll_of_nodup (map : PropertyMap α)
    {pairs : List (String × α)} (distinct : (pairs.map Prod.fst).Nodup) :
    (map.insertAll pairs).names =
      map.names ++ (pairs.map Prod.fst).filter (· ∉ map.names) := by
  induction pairs generalizing map with
  | nil => simp [insertAll]
  | cons pair pairs induction =>
      obtain ⟨fresh, rest⟩ := List.nodup_cons.mp distinct
      rw [insertAll_cons, induction _ rest, List.map_cons]
      by_cases held : pair.1 ∈ map.names
      · rw [names_insert_of_mem held, List.filter_cons_of_neg (by simpa)]
      · have others : (pairs.map Prod.fst).filter (· ∉ map.names ++ [pair.1]) =
            (pairs.map Prod.fst).filter (· ∉ map.names) := by
          apply List.filter_congr
          intro name member
          have different : name ≠ pair.1 := fun same => fresh (same ▸ member)
          simp [different]
        rw [names_insert_of_not_mem held, others,
          List.filter_cons_of_pos (by simpa), List.append_assoc,
          List.singleton_append]

theorem names_insertAll (map added : PropertyMap α) :
    (map.insertAll added.entries).names =
      map.names ++ added.names.filter (· ∉ map.names) :=
  names_insertAll_of_nodup map added.names_nodup

/-- The last pair with a name is the only one, as a map names nothing twice. -/
theorem get?_insertAll (map added : PropertyMap α) (name : String) :
    (map.insertAll added.entries).get? name =
      (added.get? name).or (map.get? name) := by
  have distinct : (added.entries.reverse.map Prod.fst).Nodup := by
    rw [List.map_reverse]
    exact List.nodup_reverse.mpr added.names_nodup
  have last : (added.entries.reverse.find? (·.1 == name)).map Prod.snd =
      added.get? name := by
    apply Option.ext
    intro value
    rw [map_find?_eq_some_iff distinct, List.mem_reverse, get?_eq_some_iff]
  rw [get?_insertAll_of_pairs, last]

theorem empty_insertAll (added : PropertyMap α) :
    empty.insertAll added.entries = added := by
  apply eq_of_names_of_get?
  · rw [names_insertAll]
    simp [names, empty]
  · intro name
    rw [get?_insertAll]
    exact Option.or_none

/-- Inserting into what is inserted comes to inserting afterwards. -/
theorem insertAll_insert (map added : PropertyMap α) (name : String)
    (value : α) :
    map.insertAll (added.insert name value).entries =
      (map.insertAll added.entries).insert name value := by
  apply eq_of_names_of_get?
  · have either : name ∈ (map.insertAll added.entries).names ↔
        name ∈ map.names ∨ name ∈ added.names := by
      by_cases held : name ∈ map.names
      · simp [names_insertAll, held]
      · simp [names_insertAll, held]
    rw [names_insertAll]
    by_cases listed : name ∈ added.names
    · rw [names_insert_of_mem listed,
        names_insert_of_mem (either.mpr (.inr listed)), names_insertAll]
    · rw [names_insert_of_not_mem listed, List.filter_append]
      by_cases held : name ∈ map.names
      · rw [names_insert_of_mem (either.mpr (.inl held)), names_insertAll]
        simp [held]
      · have absent : name ∉ (map.insertAll added.entries).names :=
          fun member => (either.mp member).elim held listed
        rw [names_insert_of_not_mem absent, names_insertAll]
        simp [held]
  · intro other
    rw [get?_insertAll, get?_insert, get?_insert, get?_insertAll]
    by_cases same : name = other
    · simp [same]
    · simp [same]

end KeysetPaging.PropertyMap
