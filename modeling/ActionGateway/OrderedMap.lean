/-! # Ordered maps

A map from names to values that remembers the order in which names first appeared. Writing a name
that is already there replaces its value and leaves its position alone.
-/

namespace ActionGateway

/-- **Ordered map.** Entries in order of first appearance, one for each name. -/
structure OrderedMap (β : Type) where
  entries : List (String × β)
  nodup : (entries.map Prod.fst).Nodup
  deriving DecidableEq

namespace OrderedMap

variable {β : Type}

/-- Write one entry of a list of pairs: in place when the name occurs, at the end otherwise. -/
def write (name : String) (value : β) : List (String × β) → List (String × β)
  | [] => [(name, value)]
  | entry :: rest =>
    if entry.1 = name then (name, value) :: rest else entry :: write name value rest

/-- Writing adds the written name and no other. -/
theorem mem_names_write (name other : String) (value : β) (entries : List (String × β)) :
    other ∈ (write name value entries).map Prod.fst ↔
      other = name ∨ other ∈ entries.map Prod.fst := by
  induction entries with
  | nil => simp [write]
  | cons entry rest ih =>
    by_cases same : entry.1 = name
    · simp [write, same]
    · simp only [write, same, if_false, List.map_cons, List.mem_cons, ih]
      constructor
      · rintro (h | h | h)
        · exact .inr (.inl h)
        · exact .inl h
        · exact .inr (.inr h)
      · rintro (h | h | h)
        · exact .inr (.inl h)
        · exact .inl h
        · exact .inr (.inr h)

/-- Writing keeps the names distinct. -/
theorem nodup_write (name : String) (value : β) (entries : List (String × β))
    (nodup : (entries.map Prod.fst).Nodup) :
    ((write name value entries).map Prod.fst).Nodup := by
  induction entries with
  | nil => simp [write]
  | cons entry rest ih =>
    rw [List.map_cons, List.nodup_cons] at nodup
    by_cases same : entry.1 = name
    · simpa [write, same] using nodup
    · rw [write, if_neg same, List.map_cons, List.nodup_cons, mem_names_write]
      exact ⟨fun h => h.elim same nodup.1, ih nodup.2⟩

/-- The map without entries. -/
def empty : OrderedMap β := ⟨[], by simp⟩

instance : Inhabited (OrderedMap β) := ⟨empty⟩

/-- Write one entry. -/
def insert (map : OrderedMap β) (name : String) (value : β) : OrderedMap β :=
  ⟨write name value map.entries, nodup_write name value map.entries map.nodup⟩

/-- Write entries one after the other. -/
def insertAll (map : OrderedMap β) (entries : List (String × β)) : OrderedMap β :=
  entries.foldl (fun map entry => map.insert entry.1 entry.2) map

/-- The map that results from writing the entries into an empty one. -/
def ofList (entries : List (String × β)) : OrderedMap β :=
  empty.insertAll entries

/-- The names in order of first appearance. -/
def names (map : OrderedMap β) : List String :=
  map.entries.map Prod.fst

/-- The value written last under a name. -/
def get? (map : OrderedMap β) (name : String) : Option β :=
  map.entries.lookup name

/-- Whether a name occurs. -/
def contains (map : OrderedMap β) (name : String) : Bool :=
  (map.get? name).isSome

/-- No entries. -/
def isEmpty (map : OrderedMap β) : Bool :=
  map.entries.isEmpty

end OrderedMap

end ActionGateway
