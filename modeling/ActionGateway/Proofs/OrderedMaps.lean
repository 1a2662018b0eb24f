import ActionGateway.OrderedMap
import Mathlib.Data.List.Basic
import Mathlib.Data.List.Induction

/-!
# Looking up what was written

An ordered map answers with the value that was written last under a name. As it holds one entry
for each name, what it answers and what it holds are the same. Its names stand in the order in
which they were first written. Answers and names are all there is to a map, so writing one map over
another is the same as writing everything that went into it.
-/

namespace ActionGateway

/-- Looking a key up goes through a change of the values. -/
theorem lookup_map_values {κ α β : Type} [BEq κ] (change : α → β)
    (entries : List (κ × α)) (key : κ) :
    (entries.map fun entry => (entry.1, change entry.2)).lookup key =
      (entries.lookup key).map change := by
  induction entries with
  | nil => rfl
  | cons entry rest ih =>
      rw [List.map_cons, List.lookup_cons, List.lookup_cons, ih]
      cases key == entry.1 <;> rfl

namespace OrderedMap

variable {β : Type}

/-- What a look-up finds is in the list. -/
theorem mem_of_lookup_eq_some {entries : List (String × β)} {name : String} {value : β}
    (found : entries.lookup name = some value) : (name, value) ∈ entries := by
  obtain ⟨before, after, rfl, -⟩ := List.lookup_eq_some_iff.mp found
  exact List.mem_append_right before List.mem_cons_self

/-- In a list with one pair for each name, looking up a name finds its pair. -/
theorem lookup_eq_some_iff_mem {entries : List (String × β)}
    (nodup : (entries.map Prod.fst).Nodup) (name : String) (value : β) :
    entries.lookup name = some value ↔ (name, value) ∈ entries := by
  constructor
  · exact mem_of_lookup_eq_some
  · intro member
    obtain ⟨before, after, rfl⟩ := List.append_of_mem member
    apply List.lookup_eq_some_iff.mpr
    refine ⟨before, after, rfl, ?_⟩
    intro entry earlier
    rw [List.map_append, List.map_cons] at nodup
    have distinct := (List.nodup_append.mp nodup).2.2 entry.1
      (List.mem_map_of_mem earlier) name List.mem_cons_self
    exact bne_iff_ne.mpr (Ne.symm distinct)

/-- A map answers with a value exactly when it holds it under the name. -/
theorem get?_eq_some_iff_mem (map : OrderedMap β) (name : String) (value : β) :
    map.get? name = some value ↔ (name, value) ∈ map.entries :=
  lookup_eq_some_iff_mem map.nodup name value

/-- The order of its entries does not change what a map answers. -/
theorem get?_of_perm {first second : OrderedMap β} (same : first.entries.Perm second.entries)
    (name : String) : first.get? name = second.get? name := by
  apply Option.ext
  intro value
  rw [get?_eq_some_iff_mem, get?_eq_some_iff_mem]
  exact same.mem_iff

/-- A look-up stops at the first entry if it has the name. -/
theorem lookup_cons_eq_ite (entry : String × β) (rest : List (String × β)) (name : String) :
    (entry :: rest).lookup name = if name = entry.1 then some entry.2 else rest.lookup name := by
  by_cases same : name = entry.1
  · rw [if_pos same, same]
    exact List.lookup_cons_self
  · rw [if_neg same, List.lookup_cons, beq_false_of_ne same]

/-- Writing an entry is seen under its own name only. -/
theorem lookup_write (name other : String) (value : β) (entries : List (String × β)) :
    (write name value entries).lookup other =
      if other = name then some value else entries.lookup other := by
  induction entries with
  | nil => exact lookup_cons_eq_ite (name, value) [] other
  | cons entry rest ih =>
      by_cases written : entry.1 = name
      · rw [write, if_pos written, lookup_cons_eq_ite, lookup_cons_eq_ite, written]
        by_cases same : other = name <;> simp only [same, ↓reduceIte]
      · rw [write, if_neg written, lookup_cons_eq_ite, lookup_cons_eq_ite, ih]
        by_cases same : other = name
        · have different : other ≠ entry.1 := fun equal => written (equal.symm.trans same)
          simp only [same, ↓reduceIte, same ▸ different]
        · simp only [same, ↓reduceIte]

/-- The value that was just written is found, and every other name keeps its answer. -/
theorem get?_insert (map : OrderedMap β) (name other : String) (value : β) :
    (map.insert name value).get? other = if other = name then some value else map.get? other :=
  lookup_write name other value map.entries

/-- Each value is held under its own id. -/
def FiledBy (idOf : β → String) (map : OrderedMap β) : Prop :=
  ∀ name value, map.get? name = some value → idOf value = name

/-- The empty map is filed by anything. -/
theorem filedBy_empty (idOf : β → String) : (empty : OrderedMap β).FiledBy idOf :=
  fun _ _ found => nomatch found

/-- Writing a value under its id files it. -/
theorem FiledBy.insert {idOf : β → String} {map : OrderedMap β} (filed : map.FiledBy idOf)
    (value : β) : (map.insert (idOf value) value).FiledBy idOf := by
  intro name other found
  rw [get?_insert] at found
  by_cases written : name = idOf value
  · rw [if_pos written] at found
    rw [← Option.some.inj found, written]
  · rw [if_neg written] at found
    exact filed name other found

/-! ## Writing many entries -/

/-- The value that stands last under a name. -/
def latest? (entries : List (String × β)) (name : String) : Option β :=
  entries.reverse.lookup name

/-- A later list hides an earlier one. -/
theorem latest?_append (first second : List (String × β)) (name : String) :
    latest? (first ++ second) name = (latest? second name).or (latest? first name) := by
  rw [latest?, List.reverse_append, List.lookup_append]
  rfl

/-- A last entry hides all of its name. -/
theorem latest?_concat (entries : List (String × β)) (entry : String × β) (name : String) :
    latest? (entries ++ [entry]) name =
      if name = entry.1 then some entry.2 else latest? entries name := by
  rw [latest?, List.reverse_append, List.reverse_singleton, List.singleton_append,
    lookup_cons_eq_ite]
  rfl

/-- What is found last is in the list. -/
theorem mem_of_latest?_eq_some {entries : List (String × β)} {name : String} {value : β}
    (found : latest? entries name = some value) : (name, value) ∈ entries := by
  obtain ⟨before, after, split, -⟩ := List.lookup_eq_some_iff.mp found
  apply List.mem_reverse.mp
  rw [split]
  exact List.mem_append_right _ List.mem_cons_self

/-- Nothing is found under a name just when no entry has it. -/
theorem latest?_eq_none_iff {entries : List (String × β)} {name : String} :
    latest? entries name = none ↔ name ∉ entries.map Prod.fst := by
  simp only [latest?, List.lookup_eq_none_iff, List.mem_reverse, bne_iff_ne, List.mem_map,
    not_exists, not_and, ne_comm (a := name)]

/-- Where names differ, the last of a name is its only one. -/
theorem latest?_eq_some_iff_mem {entries : List (String × β)}
    (nodup : (entries.map Prod.fst).Nodup) (name : String) (value : β) :
    latest? entries name = some value ↔ (name, value) ∈ entries := by
  have reversed : (entries.reverse.map Prod.fst).Nodup := by
    rw [List.map_reverse]
    exact (List.reverse_perm _).nodup_iff.mpr nodup
  rw [latest?, lookup_eq_some_iff_mem reversed, List.mem_reverse]

/-- A map with one entry for each name is looked up from either end. -/
theorem latest?_entries (map : OrderedMap β) (name : String) :
    latest? map.entries name = map.get? name := by
  apply Option.ext
  intro value
  rw [latest?_eq_some_iff_mem map.nodup, get?_eq_some_iff_mem]

/-- Inserting two lists is inserting one after the other. -/
theorem insertAll_append (map : OrderedMap β) (first second : List (String × β)) :
    map.insertAll (first ++ second) = (map.insertAll first).insertAll second :=
  List.foldl_append

/-- The last entry is inserted last. -/
theorem insertAll_concat (map : OrderedMap β) (entries : List (String × β)) (entry : String × β) :
    map.insertAll (entries ++ [entry]) = (map.insertAll entries).insert entry.1 entry.2 :=
  insertAll_append map entries [entry]

/-- Of all that is written under a name the last is found. -/
theorem get?_insertAll (map : OrderedMap β) (entries : List (String × β)) (name : String) :
    (map.insertAll entries).get? name = (latest? entries name).or (map.get? name) := by
  induction entries using List.reverseRecOn with
  | nil => rfl
  | append_singleton entries entry ih =>
      rw [insertAll_concat, get?_insert, ih, latest?_concat]
      by_cases same : name = entry.1 <;> simp only [same, ↓reduceIte, Option.some_or]

/-- A new name is written at the end, a known one keeps its place. -/
theorem names_write (name : String) (value : β) (entries : List (String × β)) :
    (write name value entries).map Prod.fst =
      if name ∈ entries.map Prod.fst then entries.map Prod.fst
      else entries.map Prod.fst ++ [name] := by
  induction entries with
  | nil => rfl
  | cons entry rest ih =>
      by_cases same : entry.1 = name
      · have present : name ∈ (entry :: rest).map Prod.fst := by
          rw [← same]
          exact List.mem_cons_self
        rw [write, if_pos same, if_pos present, List.map_cons, List.map_cons, same]
      · have other : name ≠ entry.1 := Ne.symm same
        rw [write, if_neg same, List.map_cons, ih, List.map_cons]
        by_cases later : name ∈ rest.map Prod.fst
        · rw [if_pos later, if_pos (List.mem_cons_of_mem _ later)]
        · have absent : name ∉ entry.1 :: rest.map Prod.fst :=
            List.not_mem_cons_of_ne_of_not_mem other later
          rw [if_neg later, if_neg absent, List.cons_append]

/-- A last name counts unless it has come before. -/
theorem eraseDups_concat (names : List String) (name : String) :
    (names ++ [name]).eraseDups =
      if name ∈ names then names.eraseDups else names.eraseDups ++ [name] := by
  rw [List.eraseDups_append]
  by_cases present : name ∈ names
  · simp [List.removeAll, present]
  · simp [List.removeAll, present, List.eraseDups_cons]

/-- Different names are all kept. -/
theorem eraseDups_eq_self {names : List String} (nodup : names.Nodup) :
    names.eraseDups = names := by
  induction names using List.reverseRecOn with
  | nil => rfl
  | append_singleton names name ih =>
      obtain ⟨earlier, -, apart⟩ := List.nodup_append.mp nodup
      have absent : name ∉ names := fun present => apart name present name List.mem_cons_self rfl
      rw [eraseDups_concat, if_neg absent, ih earlier]

/-- **Names keep the order in which they first appear.** -/
theorem names_insertAll (map : OrderedMap β) (entries : List (String × β)) :
    (map.insertAll entries).names = (map.names ++ entries.map Prod.fst).eraseDups := by
  induction entries using List.reverseRecOn with
  | nil =>
      rw [List.map_nil, List.append_nil]
      exact (eraseDups_eq_self map.nodup).symm
  | append_singleton entries entry ih =>
      have step : ((map.insertAll entries).insert entry.1 entry.2).names =
          if entry.1 ∈ (map.insertAll entries).names then (map.insertAll entries).names
          else (map.insertAll entries).names ++ [entry.1] :=
        names_write ..
      rw [insertAll_concat, step, ih, List.map_append, List.map_singleton, ← List.append_assoc,
        eraseDups_concat]
      simp only [List.mem_eraseDups]

/-- A map made of a list finds the last entry of a name. -/
theorem get?_ofList (entries : List (String × β)) (name : String) :
    (ofList entries).get? name = latest? entries name :=
  (get?_insertAll empty entries name).trans Option.or_none

/-- Its names are those of the list, each where it came first. -/
theorem names_ofList (entries : List (String × β)) :
    (ofList entries).names = (entries.map Prod.fst).eraseDups :=
  names_insertAll empty entries

/-- The entries of a map are told by its names and what it finds under them. -/
theorem entries_eq_filterMap_names (map : OrderedMap β) :
    map.entries =
      map.names.filterMap fun name => (map.get? name).map fun value => (name, value) := by
  have own : ∀ entry ∈ map.entries,
      ((map.get? entry.1).map fun value => (entry.1, value)) = some entry := by
    intro entry member
    rw [(get?_eq_some_iff_mem map entry.1 entry.2).mpr member]
    rfl
  rw [names, List.filterMap_map]
  exact (List.filterMap_some.symm.trans (List.filterMap_congr own).symm)

/-- A map is what it answers and the order of its names. -/
theorem eq_of_names_of_get? {first second : OrderedMap β} (names : first.names = second.names)
    (answers : ∀ name, first.get? name = second.get? name) : first = second := by
  have entries : first.entries = second.entries := by
    rw [entries_eq_filterMap_names first, entries_eq_filterMap_names second, names, funext answers]
  cases first
  cases second
  cases entries
  rfl

/-- Inserting appends a new name and keeps the place of a known one. -/
theorem names_insert (map : OrderedMap β) (name : String) (value : β) :
    (map.insert name value).names =
      if name ∈ map.names then map.names else map.names ++ [name] :=
  names_write name value map.entries

/-- Writing the entries of a map to which one was written is writing that one last. -/
theorem insertAll_insert (lower upper : OrderedMap β) (name : String) (value : β) :
    lower.insertAll (upper.insert name value).entries =
      (lower.insertAll upper.entries).insert name value := by
  refine eq_of_names_of_get? ?_ fun other => ?_
  · have written := names_insertAll lower (upper.insert name value).entries
    have before := names_insertAll lower upper.entries
    change _ = (lower.names ++ (upper.insert name value).names).eraseDups at written
    change _ = (lower.names ++ upper.names).eraseDups at before
    rw [written, names_insert, names_insert, before]
    by_cases known : name ∈ upper.names
    · simp only [known, ↓reduceIte, List.mem_eraseDups, List.mem_append, or_true]
    · simp only [known, ↓reduceIte, ← List.append_assoc, eraseDups_concat, List.mem_eraseDups]
  · rw [get?_insertAll, latest?_entries, get?_insert, get?_insert, get?_insertAll, latest?_entries]
    by_cases same : other = name <;> simp only [same, ↓reduceIte, Option.some_or]

/-- **Layers are flat.** Writing a map over another is writing all that went into it. -/
theorem insertAll_insertAll (lower upper : OrderedMap β) (entries : List (String × β)) :
    lower.insertAll (upper.insertAll entries).entries =
      (lower.insertAll upper.entries).insertAll entries := by
  induction entries using List.reverseRecOn with
  | nil => rfl
  | append_singleton entries entry ih =>
      rw [insertAll_concat, insertAll_insert, ih, insertAll_concat]

/-- A list may be made a map before it is inserted. -/
theorem insertAll_ofList (map : OrderedMap β) (entries : List (String × β)) :
    map.insertAll (ofList entries).entries = map.insertAll entries :=
  insertAll_insertAll map empty entries

/-! ## Entries under some names only -/

section Filter

variable (keeps : String → Bool)

/-- Leaving out names leaves out what was found under them. -/
theorem latest?_filter (entries : List (String × β)) (name : String) :
    latest? (entries.filter fun entry => keeps entry.1) name =
      if keeps name then latest? entries name else none := by
  induction entries using List.reverseRecOn with
  | nil => exact (ite_self none).symm
  | append_singleton entries entry ih =>
      rw [List.filter_append, List.filter_singleton, latest?_concat]
      cases kept : keeps entry.1 with
      | true =>
          rw [cond_true, latest?_concat, ih]
          by_cases same : name = entry.1
          · simp only [same, kept, ↓reduceIte]
          · simp only [same, ↓reduceIte]
      | false =>
          rw [cond_false, List.append_nil, ih]
          by_cases same : name = entry.1
          · simp only [same, kept, Bool.false_eq_true, ↓reduceIte]
          · simp only [same, ↓reduceIte]

/-- Writing and leaving out names may change places. -/
theorem filter_write (name : String) (value : β) (entries : List (String × β)) :
    (write name value entries).filter (fun entry => keeps entry.1) =
      if keeps name then write name value (entries.filter fun entry => keeps entry.1)
      else entries.filter fun entry => keeps entry.1 := by
  induction entries with
  | nil => cases kept : keeps name <;> simp [write, kept]
  | cons entry rest ih =>
      by_cases same : entry.1 = name
      · cases kept : keeps name <;> simp [write, same, kept]
      · cases kept : keeps entry.1 <;> cases written : keeps name <;>
          simp [write, same, kept, written, ih]

/-- Leaving out names first or last makes no difference. -/
theorem filter_entries_ofList (entries : List (String × β)) :
    (ofList entries).entries.filter (fun entry => keeps entry.1) =
      (ofList (entries.filter fun entry => keeps entry.1)).entries := by
  induction entries using List.reverseRecOn with
  | nil => rfl
  | append_singleton entries entry ih =>
      have step : (ofList (entries ++ [entry])).entries =
          write entry.1 entry.2 (ofList entries).entries :=
        congrArg OrderedMap.entries (insertAll_concat empty entries entry)
      rw [step, filter_write, ih, List.filter_append, List.filter_singleton]
      cases keeps entry.1 with
      | true => exact (congrArg OrderedMap.entries (insertAll_concat empty _ entry)).symm
      | false => rw [cond_false, List.append_nil, if_neg Bool.false_ne_true]

end Filter

end OrderedMap

end ActionGateway
