import ActionGateway.Proofs.JsonPaths
import ActionGateway.Proofs.OrderedMaps
import ActionGateway.Proofs.WellFormedValues

/-!
# Texts of a value

The leaves of a value are its texts, each with its place, in the order in which a traversal comes to
them. Replacing every text leaves all else as it is: at each place of the value the new one has the
same names or as many items, and the scalars that are no texts are the same.
-/

namespace ActionGateway.Json

/-- A step as a segment of a path: the name of a field, or an index in decimal. -/
def Step.segment : Step → String
  | field name => name
  | item index => toString index

/-- A text of a value, and where it is. -/
structure Leaf where
  place : List Step
  text : String
  deriving DecidableEq, Repr

namespace Leaf

/-- The leaf as seen from one step farther up. -/
def under (step : Step) (leaf : Leaf) : Leaf :=
  ⟨step :: leaf.place, leaf.text⟩

/-- The path of the leaf, segment by segment. -/
def path (leaf : Leaf) : List String :=
  leaf.place.map Step.segment

end Leaf

mutual

/-- **The leaves of a value**, in their order. -/
def leaves : Json → List Leaf
  | .str text => [⟨[], text⟩]
  | .arr items => itemLeaves 0 items
  | .obj fields => fieldLeaves fields
  | _ => []

/-- The leaves of items, from the given index on. -/
def itemLeaves (index : Nat) : List Json → List Leaf
  | [] => []
  | item :: rest => item.leaves.map (Leaf.under (.item index)) ++ itemLeaves (index + 1) rest

def fieldLeaves : List (String × Json) → List Leaf
  | [] => []
  | (name, value) :: rest => value.leaves.map (Leaf.under (.field name)) ++ fieldLeaves rest

end

mutual

/-- **The value with each of its texts replaced.** -/
def mapTexts (change : String → Json) : Json → Json
  | .str text => change text
  | .arr items => .arr (mapTextsItems change items)
  | .obj fields => .obj (mapTextsFields change fields)
  | scalar => scalar

def mapTextsItems (change : String → Json) : List Json → List Json
  | [] => []
  | item :: rest => item.mapTexts change :: mapTextsItems change rest

def mapTextsFields (change : String → Json) : List (String × Json) → List (String × Json)
  | [] => []
  | (name, value) :: rest => (name, value.mapTexts change) :: mapTextsFields change rest

end

/-- **What may stand at a place** after the texts were replaced: an object with the same names, an
array of the same length, what a text is replaced by, or the same scalar. -/
def KeepsFrame (change : String → Json) : Json → Json → Prop
  | .obj fields, made => ∃ results, made = .obj results ∧ results.map Prod.fst = fields.map Prod.fst
  | .arr items, made => ∃ results, made = .arr results ∧ results.length = items.length
  | .str text, made => made = change text
  | scalar, made => made = scalar

/-! ## Leaves and their places -/

mutual

/-- The leaves of a value hold its texts, in the order of the document. -/
theorem map_text_leaves (value : Json) : value.leaves.map Leaf.text = value.texts := by
  cases value with
  | str text => rfl
  | arr items => exact map_text_itemLeaves 0 items
  | obj fields => exact map_text_fieldLeaves fields
  | _ => rfl

theorem map_text_itemLeaves (index : Nat) (items : List Json) :
    (itemLeaves index items).map Leaf.text = itemTexts items := by
  cases items with
  | nil => rfl
  | cons item rest =>
      rw [itemLeaves, itemTexts, List.map_append, List.map_map, ← map_text_leaves item,
        ← map_text_itemLeaves (index + 1) rest]
      rfl

theorem map_text_fieldLeaves (fields : List (String × Json)) :
    (fieldLeaves fields).map Leaf.text = fieldTexts fields := by
  cases fields with
  | nil => rfl
  | cons field rest =>
      rw [fieldLeaves, fieldTexts, List.map_append, List.map_map, ← map_text_leaves field.2,
        ← map_text_fieldLeaves rest]
      rfl

end

/-- A leaf of the items is a leaf of one of them, below its index. -/
theorem mem_itemLeaves_iff (start : Nat) (items : List Json) (leaf : Leaf) :
    leaf ∈ itemLeaves start items ↔ ∃ (index : Nat) (item : Json), items[index]? = some item ∧
      ∃ below ∈ item.leaves, below.under (.item (start + index)) = leaf := by
  induction items generalizing start with
  | nil =>
      constructor
      · intro member
        exact nomatch member
      · rintro ⟨index, item, found, -⟩
        exact nomatch found
  | cons first rest ih =>
      rw [itemLeaves, List.mem_append, List.mem_map, ih]
      constructor
      · rintro (⟨below, member, rfl⟩ | ⟨index, item, found, below, member, rfl⟩)
        · exact ⟨0, first, rfl, below, member, rfl⟩
        · refine ⟨index + 1, item, found, below, member, ?_⟩
          rw [Nat.add_right_comm, Nat.add_assoc]
      · rintro ⟨index, item, found, below, member, rfl⟩
        cases index with
        | zero =>
            left
            cases found
            exact ⟨below, member, rfl⟩
        | succ index =>
            right
            refine ⟨index, item, found, below, member, ?_⟩
            rw [Nat.add_right_comm, Nat.add_assoc]

/-- A leaf of the fields is a leaf of one of them, below its name. -/
theorem mem_fieldLeaves_iff (fields : List (String × Json)) (leaf : Leaf) :
    leaf ∈ fieldLeaves fields ↔
      ∃ field ∈ fields, ∃ below ∈ field.2.leaves, below.under (.field field.1) = leaf := by
  induction fields with
  | nil =>
      constructor
      · intro member
        exact nomatch member
      · rintro ⟨field, member, -⟩
        exact nomatch member
  | cons first rest ih =>
      rw [fieldLeaves, List.mem_append, List.mem_map, ih, List.exists_mem_cons_iff]

/-- The children of a well-formed value are well formed. -/
theorem WellFormed.child? {value inner : Json} (sound : value.WellFormed) {step : Step}
    (found : value.child? step = some inner) : inner.WellFormed := by
  cases value with
  | arr items =>
      cases step with
      | item index => exact (wellFormedItems_iff items).mp sound _ (List.mem_of_getElem? found)
      | field name => exact nomatch found
  | obj fields =>
      cases step with
      | item index => exact nomatch found
      | field name =>
          have present := OrderedMap.mem_of_lookup_eq_some found
          exact (wellFormedFields_iff fields).mp sound.2 _ present
  | null | bool _ | num _ | str _ => exact nomatch found

/-- A value is its own leaf just when it is a text. -/
theorem mem_leaves_nil_iff (value : Json) (text : String) :
    ⟨[], text⟩ ∈ value.leaves ↔ value = .str text := by
  cases value with
  | str other => simp [leaves, eq_comm]
  | arr items => simp [leaves, mem_itemLeaves_iff, Leaf.under]
  | obj fields => simp [leaves, mem_fieldLeaves_iff, Leaf.under]
  | null | bool _ | num _ => simp [leaves]

/-- A leaf below a step is a leaf of what the step leads to. -/
theorem mem_leaves_cons_iff {value : Json} (sound : value.WellFormed) (step : Step)
    (place : List Step) (text : String) :
    ⟨step :: place, text⟩ ∈ value.leaves ↔
      ∃ child, value.child? step = some child ∧ ⟨place, text⟩ ∈ child.leaves := by
  cases value with
  | arr items =>
      rw [leaves, mem_itemLeaves_iff]
      constructor
      · rintro ⟨index, item, found, ⟨place, text⟩, member, ⟨⟩⟩
        rw [Nat.zero_add]
        exact ⟨item, found, member⟩
      · rintro ⟨child, found, member⟩
        cases step with
        | field name => exact nomatch found
        | item index => exact ⟨index, child, found, _, member, by rw [Nat.zero_add]; rfl⟩
  | obj fields =>
      have distinct : (fields.map Prod.fst).Nodup := sound.1.imp String.ne_of_lt
      rw [leaves, mem_fieldLeaves_iff]
      constructor
      · rintro ⟨⟨name, child⟩, present, ⟨place, text⟩, member, ⟨⟩⟩
        exact ⟨child, (OrderedMap.lookup_eq_some_iff_mem distinct name child).mpr present, member⟩
      · rintro ⟨child, found, member⟩
        cases step with
        | item index => exact nomatch found
        | field name =>
            exact ⟨(name, child), OrderedMap.mem_of_lookup_eq_some found, _, member, rfl⟩
  | str other => simp [leaves, child?]
  | null | bool _ | num _ => simp [leaves, child?]

/-- **The leaves of a value are its texts, where they are.** -/
theorem mem_leaves_iff {value : Json} (sound : value.WellFormed) (place : List Step)
    (text : String) : ⟨place, text⟩ ∈ value.leaves ↔ value.at? place = some (.str text) := by
  induction place generalizing value with
  | nil => rw [mem_leaves_nil_iff, at?, Option.some.injEq]
  | cons step rest ih =>
      rw [mem_leaves_cons_iff sound, at?, Option.bind_eq_some_iff]
      apply exists_congr
      intro child
      apply and_congr_right
      intro found
      exact ih (sound.child? found)

/-! ## Replaced texts -/

variable (change : String → Json)

/-- Changing the texts of items changes those of each. -/
theorem mapTextsItems_eq_map (items : List Json) :
    mapTextsItems change items = items.map (mapTexts change) := by
  induction items with
  | nil => rfl
  | cons item rest ih => rw [mapTextsItems, ih, List.map_cons]

/-- Changing the texts of fields keeps the names and changes those of each value. -/
theorem mapTextsFields_eq_map (fields : List (String × Json)) :
    mapTextsFields change fields =
      fields.map fun field => (field.1, field.2.mapTexts change) := by
  induction fields with
  | nil => rfl
  | cons field rest ih => rw [mapTextsFields, ih, List.map_cons]

/-- The child at a step, where there is one, is changed in place. -/
theorem child?_mapTexts {value child : Json} {step : Step}
    (found : value.child? step = some child) :
    (value.mapTexts change).child? step = some (child.mapTexts change) := by
  cases value with
  | arr items =>
      cases step with
      | field name => cases found
      | item index =>
          rw [Json.child?] at found
          rw [mapTexts, mapTextsItems_eq_map, Json.child?, List.getElem?_map, found,
            Option.map_some]
  | obj fields =>
      cases step with
      | item index => cases found
      | field name =>
          rw [Json.child?] at found
          rw [mapTexts, mapTextsFields_eq_map, Json.child?, lookup_map_values, found,
            Option.map_some]
  | null | bool _ | num _ | str _ => cases found

theorem at?_mapTexts {value node : Json} {place : List Step}
    (found : value.at? place = some node) :
    (value.mapTexts change).at? place = some (node.mapTexts change) := by
  induction place generalizing value with
  | nil =>
      cases found
      rfl
  | cons step rest ih =>
      obtain ⟨child, here, below⟩ := Option.bind_eq_some_iff.mp found
      rw [at?, child?_mapTexts change here, Option.bind_some]
      exact ih below

/-- Changing texts keeps everything around them. -/
theorem keepsFrame_mapTexts (value : Json) : value.KeepsFrame change (value.mapTexts change) := by
  cases value with
  | arr items =>
      refine ⟨_, rfl, ?_⟩
      rw [mapTextsItems_eq_map, List.length_map]
  | obj fields =>
      refine ⟨_, rfl, ?_⟩
      rw [mapTextsFields_eq_map, List.map_map]
      rfl
  | null | bool _ | num _ | str _ => rfl

mutual

/-- Replacing looks at the texts of a value and at nothing else. -/
theorem mapTexts_congr {change other : String → Json} (value : Json)
    (same : ∀ text ∈ value.texts, change text = other text) :
    value.mapTexts change = value.mapTexts other := by
  cases value with
  | str text => exact same text (List.mem_singleton_self text)
  | arr items => exact congrArg Json.arr (mapTextsItems_congr items same)
  | obj fields => exact congrArg Json.obj (mapTextsFields_congr fields same)
  | null | bool _ | num _ => rfl

/-- Changes that agree on the texts of items agree on the items. -/
theorem mapTextsItems_congr {change other : String → Json} (items : List Json)
    (same : ∀ text ∈ itemTexts items, change text = other text) :
    mapTextsItems change items = mapTextsItems other items := by
  cases items with
  | nil => rfl
  | cons item rest =>
      obtain ⟨own, others⟩ := List.forall_mem_append.mp same
      rw [mapTextsItems, mapTextsItems, mapTexts_congr item own, mapTextsItems_congr rest others]

theorem mapTextsFields_congr {change other : String → Json} (fields : List (String × Json))
    (same : ∀ text ∈ fieldTexts fields, change text = other text) :
    mapTextsFields change fields = mapTextsFields other fields := by
  cases fields with
  | nil => rfl
  | cons field rest =>
      obtain ⟨own, others⟩ := List.forall_mem_append.mp same
      rw [mapTextsFields, mapTextsFields, mapTexts_congr field.2 own,
        mapTextsFields_congr rest others]

end

end ActionGateway.Json
