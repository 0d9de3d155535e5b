/-!
# Property maps

A finite map from names to values that remembers the order in which the names
were first inserted.  Inserting a name again replaces its value and keeps its
place.  Tokens, property bags and entity types all rest on this map: its order
is the order in which a token lists its fields.
-/

namespace KeysetPaging

/-- Named values in insertion order, each name once. -/
structure PropertyMap (α : Type) where
  entries : List (String × α)
  names_nodup : (entries.map Prod.fst).Nodup

namespace PropertyMap

variable {α : Type}

/-- The entries with a name set to a value: in its place if the name is there,
at the end otherwise. -/
def put (name : String) (value : α) : List (String × α) → List (String × α)
  | [] => [(name, value)]
  | entry :: rest =>
      if entry.1 = name then (name, value) :: rest
      else entry :: put name value rest

theorem map_fst_put (name : String) (value : α) (entries : List (String × α)) :
    (put name value entries).map Prod.fst =
      if name ∈ entries.map Prod.fst then entries.map Prod.fst
      else entries.map Prod.fst ++ [name] := by
  induction entries with
  | nil => simp [put]
  | cons entry rest ih =>
      by_cases same : entry.1 = name
      · simp [put, same]
      · have different : ¬ name = entry.1 := fun equal => same equal.symm
        simp only [put, same, if_false, List.map_cons, ih, List.mem_cons,
          different, false_or]
        split <;> simp

theorem nodup_put {entries : List (String × α)}
    (distinct : (entries.map Prod.fst).Nodup) (name : String) (value : α) :
    ((put name value entries).map Prod.fst).Nodup := by
  rw [map_fst_put]
  split
  · exact distinct
  · rename_i absent
    refine List.nodup_append.mpr ⟨distinct, by simp, ?_⟩
    intro other member last lastMember equal
    rw [List.mem_singleton.mp lastMember] at equal
    exact absent (equal ▸ member)

def empty : PropertyMap α := ⟨[], by simp⟩

instance : Inhabited (PropertyMap α) := ⟨empty⟩

/-- The map with a name set to a value. -/
def insert (map : PropertyMap α) (name : String) (value : α) : PropertyMap α :=
  ⟨put name value map.entries, nodup_put map.names_nodup name value⟩

/-- The map with pairs inserted in order. -/
def insertAll (map : PropertyMap α) (pairs : List (String × α)) :
    PropertyMap α :=
  pairs.foldl (fun map pair => map.insert pair.1 pair.2) map

def ofList (pairs : List (String × α)) : PropertyMap α :=
  empty.insertAll pairs

def names (map : PropertyMap α) : List String :=
  map.entries.map Prod.fst

def get? (map : PropertyMap α) (name : String) : Option α :=
  (map.entries.find? (·.1 == name)).map Prod.snd

def size (map : PropertyMap α) : Nat :=
  map.entries.length

def isEmpty (map : PropertyMap α) : Bool :=
  map.entries.isEmpty

instance : Membership String (PropertyMap α) :=
  ⟨fun map name => name ∈ map.names⟩

instance (name : String) (map : PropertyMap α) : Decidable (name ∈ map) :=
  inferInstanceAs (Decidable (name ∈ map.names))

theorem names_insert (map : PropertyMap α) (name : String) (value : α) :
    (map.insert name value).names =
      if name ∈ map then map.names else map.names ++ [name] :=
  map_fst_put name value map.entries

end PropertyMap

end KeysetPaging
