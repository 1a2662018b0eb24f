import ActionGateway.Json.Decoder
import ActionGateway.Proofs.LoadedConfigurations
import ActionGateway.Proofs.Registries
import ActionGateway.Proofs.WrittenJson

/-!
# Written records are decoded

A decoder reads a value from the JSON that was written for it wherever the text has enough room for
the levels of it. Decoders of records are put together from decoders of their fields: a field that
was written is decoded, and one that was left out has its default.
-/

namespace ActionGateway.Json

open OrderedMap (latest?)

/-! ## Objects with given fields -/

/-- Sorting fields leaves the last one of each name to be found. -/
theorem lookup_sortFields {α : Type} (entries : List (String × α)) (name : String) :
    (sortFields entries).lookup name = latest? entries name := by
  induction entries using List.reverseRecOn with
  | nil => rfl
  | append_singleton before entry ih =>
      have last : sortFields (before ++ [entry]) = putField entry.1 entry.2 (sortFields before) :=
        List.foldl_concat ..
      rw [last, lookup_putField, OrderedMap.latest?_concat, ih]

/-- A field is no deeper than the fields. -/
theorem depth_le_of_mem {fields : List (String × Json)} {field : String × Json}
    (member : field ∈ fields) : field.2.depth ≤ depthFields fields := by
  induction fields with
  | nil => exact nomatch member
  | cons first rest ih =>
      rw [depthFields, le_max_iff]
      rcases List.mem_cons.mp member with rfl | later
      · exact .inl le_rfl
      · exact .inr (ih later)

/-- What an object holds is less deep than the object. -/
theorem depth_lt_object {entries : List (String × Json)} {name : String} {value : Json}
    (found : latest? entries name = some value) : value.depth < (object entries).depth := by
  rw [← lookup_sortFields] at found
  have member := depth_le_of_mem (OrderedMap.mem_of_lookup_eq_some found)
  rw [object, depth]
  exact Nat.lt_succ_of_le member

/-- Fields are no deeper than the deepest of them. -/
theorem depthFields_le {fields : List (String × Json)} {levels : Nat}
    (flat : ∀ field ∈ fields, field.2.depth ≤ levels) : depthFields fields ≤ levels := by
  induction fields with
  | nil => exact Nat.zero_le levels
  | cons field rest ih =>
      obtain ⟨own, others⟩ := List.forall_mem_cons.mp flat
      exact max_le own (ih others)

/-- An object is one level deeper than its values. -/
theorem depth_object_le {entries : List (String × Json)} {levels : Nat}
    (flat : ∀ entry ∈ entries, entry.2.depth ≤ levels) : (object entries).depth ≤ levels + 1 := by
  refine Nat.succ_le_succ (depthFields_le fun field member => ?_)
  exact flat field (mem_of_mem_sortFields field member)

/-- Numbers in fields are integers when those in each of them are. -/
theorem fieldsIntegral_iff (fields : List (String × Json)) :
    FieldsIntegral fields ↔ ∀ field ∈ fields, field.2.IsIntegral := by
  induction fields with
  | nil => exact iff_of_true trivial (List.forall_mem_nil _)
  | cons field rest ih => rw [FieldsIntegral, ih, List.forall_mem_cons]

/-- An object of integral values is integral. -/
theorem isIntegral_object {entries : List (String × Json)}
    (integral : ∀ entry ∈ entries, entry.2.IsIntegral) : (object entries).IsIntegral := by
  refine (fieldsIntegral_iff _).mpr fun field member => ?_
  exact integral field (mem_of_mem_sortFields field member)

namespace Decoder

variable {α : Type}

/-- **The decoder reads a value from JSON**, wherever there is room for its levels. -/
def Reads (decode : Decoder α) (json : Json) (value : α) : Prop :=
  ∀ room, json.depth ≤ room → decode room (Raw.ofValue json) = some value

/-- A value is read as itself. -/
theorem reads_value {json : Json} (sound : json.WellFormed) : value.Reads json json :=
  fun _ fits => Raw.value?_ofValue json sound fits

/-- A text is read as what it says. -/
theorem reads_text (content : String) : text.Reads (.str content) content :=
  fun _ _ => rfl

/-- A flag is read as it is set. -/
theorem reads_flag (set : Bool) : flag.Reads (.bool set) set :=
  fun _ _ => rfl

/-- A number that fits is read as itself. -/
theorem reads_unsigned {bits number : Nat} (fits : number < Nat.pow 2 bits) :
    (unsigned bits).Reads (ofNat number) number := by
  intro room _
  have range : (0 : Int) ≤ number ∧ (number : Int) < (Nat.pow 2 bits : Int) :=
    ⟨Int.natCast_nonneg number, Int.ofNat_lt.mpr fits⟩
  exact if_pos range

/-- Null is read as nothing. -/
theorem reads_nullable_none (decode : Decoder α) : (nullable decode).Reads .null none :=
  fun _ _ => rfl

/-- Anything but null is read as before. -/
theorem Reads.nullable {decode : Decoder α} {json : Json} {value : α}
    (reads : decode.Reads json value) (something : json ≠ .null) :
    (nullable decode).Reads json (some value) := by
  intro room fits
  rw [nullable_of_ne_null decode something, reads room fits]
  rfl

/-- A text or null is read as what it says or as nothing. -/
theorem reads_textOrNull (content : Option String) :
    (nullable text).Reads (textOrNull content) content := by
  cases content with
  | none => exact reads_nullable_none text
  | some content => exact (reads_text content).nullable nofun

/-- Items that are read as their values are read as the list of these. -/
theorem each_of_reads {decode : Decoder α} {encode : α → Json} {values : List α} {room : Nat}
    (reads : ∀ value ∈ values, decode.Reads (encode value) value)
    (fits : depthItems (values.map encode) ≤ room) :
    each (decode room) (Raw.ofItems (values.map encode)) = some values := by
  induction values with
  | nil => rfl
  | cons value rest ih =>
      obtain ⟨own, others⟩ := List.forall_mem_cons.mp reads
      rw [List.map_cons, depthItems, Nat.max_le] at fits
      rw [List.map_cons, Raw.ofItems, each, own room fits.1, ih others fits.2]
      rfl

/-- So a list is read back item by item. -/
theorem reads_list {decode : Decoder α} {encode : α → Json} {values : List α}
    (reads : ∀ value ∈ values, decode.Reads (encode value) value) :
    (list decode).Reads (.arr (values.map encode)) values := by
  intro room fits
  rw [depth] at fits
  obtain ⟨room, rfl⟩ := Nat.exists_eq_add_of_le' (Nat.one_le_of_lt fits)
  exact each_of_reads reads (Nat.le_of_succ_le_succ fits)

/-- A list of texts is read as what they say. -/
theorem reads_ofTexts (contents : List String) : (list text).Reads (ofTexts contents) contents :=
  reads_list fun content _ => reads_text content

/-- Fields that are read as their values are read as the entries of these. -/
theorem eachField_of_reads {decode : Decoder α} {encode : α → Json} {entries : List (String × α)}
    {room : Nat} (reads : ∀ entry ∈ entries, decode.Reads (encode entry.2) entry.2)
    (fits : depthFields (entries.map fun entry => (entry.1, encode entry.2)) ≤ room) :
    eachField (decode room) (Raw.ofFields (entries.map fun entry => (entry.1, encode entry.2))) =
      some entries := by
  induction entries with
  | nil => rfl
  | cons entry rest ih =>
      obtain ⟨own, others⟩ := List.forall_mem_cons.mp reads
      rw [List.map_cons, depthFields, Nat.max_le] at fits
      rw [List.map_cons, Raw.ofFields, eachField, own room fits.1, ih others fits.2]
      rfl

/-- So a map in order is read back entry by entry. -/
theorem reads_sorted {decode : Decoder α} {encode : α → Json} {entries : List (String × α)}
    (ordered : InOrder entries)
    (reads : ∀ entry ∈ entries, decode.Reads (encode entry.2) entry.2) :
    (sorted decode).Reads (object (entries.map fun entry => (entry.1, encode entry.2)))
      entries := by
  have written : InOrder (entries.map fun entry => (entry.1, encode entry.2)) := by
    unfold InOrder at ordered ⊢
    rwa [List.map_map]
  intro room fits
  rw [object, sortFields_of_inOrder written] at fits ⊢
  rw [depth] at fits
  obtain ⟨room, rfl⟩ := Nat.exists_eq_add_of_le' (Nat.one_le_of_lt fits)
  have read := eachField_of_reads reads (Nat.le_of_succ_le_succ fits)
  rw [sorted, Raw.ofValue, pairs, read, Option.map_some, sortFields_of_inOrder ordered]

/-- The name of an alternative is read as that alternative. -/
theorem reads_choice {alternatives : List (String × α)} {name : String} {value : α}
    (found : alternatives.lookup name = some value) :
    (choice alternatives).Reads (.str name) value :=
  fun _ _ => found

/-! ## Records -/

/-- The fields that were read are those that were written. -/
structure Fields.Show (read : Fields) (names : List String) (entries : List (String × Json)) :
    Prop where
  lookup : ∀ name ∈ names,
    read.present.lookup name = (latest? entries name).map Raw.ofValue
  room : ∀ name value, latest? entries name = some value → value.depth ≤ read.room

/-- No field is written twice, so nothing is refused. -/
theorem exists_collect (names : List String) {fields : List (String × Json)}
    (ordered : InOrder fields) {present : List (String × Raw)}
    (fresh : ∀ field ∈ fields, present.lookup field.1 = none) :
    ∃ result, collect names present (Raw.ofFields fields) = some result := by
  induction fields generalizing present with
  | nil => exact ⟨present, rfl⟩
  | cons field rest ih =>
      obtain ⟨least, others⟩ := (inOrder_cons_iff field rest).mp ordered
      obtain ⟨own, later⟩ := List.forall_mem_cons.mp fresh
      rw [Raw.ofFields, collect, Option.bind_eq_bind, Option.bind_some]
      by_cases wanted : names.contains field.1 = true
      · have unseen : ¬ (present.lookup field.1).isSome = true := by
          rw [own]
          exact Bool.false_ne_true
        rw [if_pos wanted, if_neg unseen]
        refine ih others fun other member => ?_
        have different : other.1 ≠ field.1 := fun same =>
          String.lt_irrefl _ (same ▸ least other member)
        rw [OrderedMap.lookup_cons_eq_ite, if_neg different]
        exact later other member
      · rw [if_neg wanted]
        exact ih others later

/-- **A written record has the fields that were written.** -/
theorem exists_show_fields (names : List String) (entries : List (String × Json)) {room : Nat}
    (fits : (object entries).depth ≤ room) :
    ∃ read, fields names room (Raw.ofValue (object entries)) = some read ∧
      read.Show names entries := by
  have ordered := inOrder_sortFields entries
  have positive : 0 < room := Nat.lt_of_lt_of_le (Nat.succ_pos _) fits
  obtain ⟨room, rfl⟩ := Nat.exists_eq_add_of_le' positive
  obtain ⟨present, collected⟩ := exists_collect names ordered fun _ _ => List.lookup_nil
  refine ⟨⟨room, present⟩, ?_, ?_, ?_⟩
  · rw [object, Raw.ofValue, fields, collected]
    rfl
  · intro name asked
    rw [← lookup_sortFields]
    exact (lookup_collect asked ordered collected).trans Option.or_none
  · intro name value found
    exact Nat.le_of_lt_succ (Nat.lt_of_lt_of_le (depth_lt_object found) fits)

namespace Fields.Show

variable {read : Fields} {names : List String} {entries : List (String × Json)} {decode : Decoder α}
  {json : Json} {value : α}

/-- A required field that is there is read as its value. -/
theorem required (shown : read.Show names entries) (name : String)
    (reads : decode.Reads json value) (asked : name ∈ names)
    (found : latest? entries name = some json) : read.required name decode = some value := by
  rw [Fields.required, shown.lookup name asked, found]
  exact reads read.room (shown.room name json found)

theorem optional (shown : read.Show names entries) (name : String) (default : α)
    (reads : decode.Reads json value) (asked : name ∈ names)
    (found : latest? entries name = some json) :
    read.optional name decode default = some value := by
  rw [Fields.optional, shown.lookup name asked, found]
  exact reads read.room (shown.room name json found)

/-- An optional field that is absent is read as its default. -/
theorem optional_absent (shown : read.Show names entries) (name : String) (default : α)
    (asked : name ∈ names) (absent : latest? entries name = none) :
    read.optional name decode default = some default := by
  rw [Fields.optional, shown.lookup name asked, absent]
  rfl

/-- A field that is written only when there is something to write. -/
theorem optional_nullable {encode : α → Json} {given : Option α} (shown : read.Show names entries)
    (name : String)
    (reads : ∀ value, given = some value → decode.Reads (encode value) value ∧ encode value ≠ .null)
    (asked : name ∈ names) (found : latest? entries name = given.map encode) :
    read.optional name (.nullable decode) none = some given := by
  cases given with
  | none => exact shown.optional_absent name none asked found
  | some value =>
      obtain ⟨own, something⟩ := reads value rfl
      exact shown.optional name none (own.nullable something) asked found

end Fields.Show

end Decoder

end ActionGateway.Json
