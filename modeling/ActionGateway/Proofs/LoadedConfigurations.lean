import ActionGateway.Manifest
import ActionGateway.Proofs.AcceptedManifests
import ActionGateway.Proofs.BindingTemplates
import ActionGateway.Proofs.Leaves

/-!
# Configurations that are loaded

A definition file writes the configuration of an action somewhere in the record of the action, which
may be an object or an array of its fields. What the action is loaded with is this value with its
references resolved and nothing else done to it, so a template that has no references is found
there as it was written.
-/

namespace ActionGateway

namespace Json

/-! ## Places in a resolved value -/

/-- The field of a record, which is written as an object or as an array of its fields in their
declared order. -/
def recordField? (names : List String) (name : String) : Json → Option Json
  | .obj fields => fields.lookup name
  | .arr items => (names.zip items).lookup name
  | _ => none

variable {α β : Type} (related : α → β → Prop)

/-- A name found in one of two related lists of fields is found in the other, with a related value.
-/
theorem exists_lookup_of_forall₂ {fields : List (String × α)} {results : List (String × β)}
    (alike : List.Forall₂ (fun field result => field.1 = result.1 ∧ related field.2 result.2)
      fields results) {name : String} {value : α} (found : fields.lookup name = some value) :
    ∃ result, related value result ∧ results.lookup name = some result := by
  induction alike with
  | nil => exact nomatch found
  | @cons field result rest others own _ ih =>
      rw [OrderedMap.lookup_cons_eq_ite] at found ⊢
      by_cases same : name = field.1
      · rw [if_pos same] at found
        rw [if_pos (same.trans own.1)]
        cases found
        exact ⟨result.2, own.2, rfl⟩
      · rw [if_neg same] at found
        rw [if_neg (own.1 ▸ same)]
        exact ih found

/-- Related items stay related when they are named. -/
theorem forall₂_zip (names : List String) {items : List α} {results : List β}
    (alike : List.Forall₂ related items results) :
    List.Forall₂ (fun field result => field.1 = result.1 ∧ related field.2 result.2)
      (names.zip items) (names.zip results) := by
  induction alike generalizing names with
  | nil =>
      rw [List.zip_nil_right, List.zip_nil_right]
      exact .nil
  | cons own _ ih =>
      cases names with
      | nil => exact .nil
      | cons name names => exact .cons ⟨rfl, own⟩ (ih names)

/-- An item of one of two related lists has its counterpart at the same index. -/
theorem exists_getElem?_of_forall₂ {items : List α} {results : List β}
    (alike : List.Forall₂ related items results) {index : Nat} {value : α}
    (found : items[index]? = some value) :
    ∃ result, related value result ∧ results[index]? = some result := by
  induction alike generalizing index with
  | nil => exact nomatch found
  | cons own _ ih =>
      cases index with
      | zero =>
          cases found
          exact ⟨_, own, rfl⟩
      | succ index => exact ih found

end Json

namespace Variables

variable {known : Variables} {value result inner : Json}

/-- A field of a record is resolved with the record. -/
theorem exists_recordField?_of_resolve (resolved : known.ResolvesTo value result)
    {names : List String} {name : String} (found : value.recordField? names name = some inner) :
    ∃ other, known.ResolvesTo inner other ∧ result.recordField? names name = some other := by
  cases value with
  | arr items =>
      obtain ⟨results, given, rfl⟩ := of_resolve_arr resolved
      have alike := Json.forall₂_zip known.ResolvesTo names (forall₂_of_resolveItems given)
      exact Json.exists_lookup_of_forall₂ known.ResolvesTo alike found
  | obj fields =>
      obtain ⟨results, given, rfl⟩ := of_resolve_obj resolved
      exact Json.exists_lookup_of_forall₂ known.ResolvesTo (forall₂_of_resolveFields given) found
  | null | bool _ | num _ | str _ => exact nomatch found

/-- A child of a value with its variables resolved is the child resolved. -/
theorem exists_child?_of_resolve (resolved : known.ResolvesTo value result) {step : Json.Step}
    (found : value.child? step = some inner) :
    ∃ other, known.ResolvesTo inner other ∧ result.child? step = some other := by
  cases value with
  | arr items =>
      obtain ⟨results, given, rfl⟩ := of_resolve_arr resolved
      cases step with
      | item index =>
          have alike := forall₂_of_resolveItems given
          exact Json.exists_getElem?_of_forall₂ known.ResolvesTo alike found
      | field name => exact nomatch found
  | obj fields =>
      obtain ⟨results, given, rfl⟩ := of_resolve_obj resolved
      cases step with
      | item index => exact nomatch found
      | field name =>
          have alike := forall₂_of_resolveFields given
          exact Json.exists_lookup_of_forall₂ known.ResolvesTo alike found
  | null | bool _ | num _ | str _ => exact nomatch found

/-- **At every place** a resolved value has what the value has there, resolved. -/
theorem exists_at?_of_resolve (resolved : known.ResolvesTo value result) {place : List Json.Step}
    (found : value.at? place = some inner) :
    ∃ other, known.ResolvesTo inner other ∧ result.at? place = some other := by
  induction place generalizing value result with
  | nil =>
      cases found
      exact ⟨result, resolved, rfl⟩
  | cons step rest ih =>
      obtain ⟨child, here, below⟩ := Option.bind_eq_some_iff.mp found
      obtain ⟨other, resolvedChild, there⟩ := exists_child?_of_resolve resolved here
      obtain ⟨last, resolvedLast, reached⟩ := ih resolvedChild below
      refine ⟨last, resolvedLast, ?_⟩
      rw [Json.at?, there]
      exact reached

end Variables

/-! ## Records that are decoded -/

namespace Json

/-- A field of a well-formed record is well formed. -/
theorem WellFormed.recordField? {value inner : Json} (sound : value.WellFormed)
    {names : List String} {name : String} (found : value.recordField? names name = some inner) :
    inner.WellFormed := by
  cases value with
  | arr items =>
      have present := OrderedMap.mem_of_lookup_eq_some found
      exact (wellFormedItems_iff items).mp sound _ (List.of_mem_zip present).2
  | obj fields =>
      have present := OrderedMap.mem_of_lookup_eq_some found
      exact (wellFormedFields_iff fields).mp sound.2 _ present
  | null | bool _ | num _ | str _ => exact nomatch found

mutual

/-- A well-formed value is read back as it is. -/
theorem eq_of_value?_ofValue {room : Nat} (value : Json) {other : Json} (sound : value.WellFormed)
    (read : (Raw.ofValue value).value? room = some other) : other = value := by
  cases value with
  | null | bool _ | num _ | str _ =>
      cases read
      rfl
  | arr items =>
      cases room with
      | zero => exact nomatch read
      | succ room =>
          rw [Raw.ofValue, Raw.value?] at read
          obtain ⟨values, given, rfl⟩ := Option.map_eq_some_iff.mp read
          rw [eq_of_values?_ofItems items sound given]
  | obj fields =>
      cases room with
      | zero => exact nomatch read
      | succ room =>
          rw [Raw.ofValue, Raw.value?] at read
          obtain ⟨values, given, rfl⟩ := Option.map_eq_some_iff.mp read
          rw [eq_of_fieldValues?_ofFields fields sound.2 given, object,
            sortFields_of_inOrder sound.1]

/-- Well-formed items are read back as they were. -/
theorem eq_of_values?_ofItems {room : Nat} (items : List Json) {values : List Json}
    (sound : WellFormedItems items) (read : Raw.values? room (Raw.ofItems items) = some values) :
    values = items := by
  cases items with
  | nil =>
      cases read
      rfl
  | cons item rest =>
      rw [Raw.ofItems, Raw.values?] at read
      obtain ⟨value, own, read⟩ := Option.bind_eq_some_iff.mp read
      obtain ⟨others, later, read⟩ := Option.bind_eq_some_iff.mp read
      rw [← Option.some.inj read, eq_of_value?_ofValue item sound.1 own,
        eq_of_values?_ofItems rest sound.2 later]

theorem eq_of_fieldValues?_ofFields {room : Nat} (fields : List (String × Json))
    {values : List (String × Json)} (sound : WellFormedFields fields)
    (read : Raw.fieldValues? room (Raw.ofFields fields) = some values) : values = fields := by
  cases fields with
  | nil =>
      cases read
      rfl
  | cons field rest =>
      rw [Raw.ofFields, Raw.fieldValues?] at read
      obtain ⟨name, named, read⟩ := Option.bind_eq_some_iff.mp read
      obtain ⟨value, own, read⟩ := Option.bind_eq_some_iff.mp read
      obtain ⟨others, later, read⟩ := Option.bind_eq_some_iff.mp read
      rw [← Option.some.inj read, ← Option.some.inj named,
        eq_of_value?_ofValue field.2 sound.1 own, eq_of_fieldValues?_ofFields rest sound.2 later]

end

namespace Decoder

/-- Collecting the fields of a record finds each asked for as it was written. -/
theorem lookup_collect {names : List String} {name : String} (asked : name ∈ names)
    {fields : List (String × Json)} (ordered : InOrder fields)
    {present result : List (String × Raw)}
    (read : collect names present (Raw.ofFields fields) = some result) :
    result.lookup name = ((fields.lookup name).map Raw.ofValue).or (present.lookup name) := by
  induction fields generalizing present with
  | nil =>
      cases read
      rfl
  | cons field rest ih =>
      obtain ⟨least, others⟩ := (inOrder_cons_iff field rest).mp ordered
      rw [Raw.ofFields, collect] at read
      obtain ⟨own, named, read⟩ := Option.bind_eq_some_iff.mp read
      obtain rfl := Option.some.inj named
      rw [OrderedMap.lookup_cons_eq_ite]
      by_cases wanted : names.contains field.1 = true
      · rw [if_pos wanted, Option.ite_none_left_eq_some] at read
        rw [ih others read.2, OrderedMap.lookup_cons_eq_ite]
        by_cases same : name = field.1
        · have once : rest.lookup name = none := by
            cases again : rest.lookup name with
            | none => rfl
            | some value =>
                have later := least _ (OrderedMap.mem_of_lookup_eq_some again)
                exact (String.lt_irrefl _ (same ▸ later)).elim
          rw [if_pos same, if_pos same, once]
          rfl
        · rw [if_neg same, if_neg same]
      · rw [if_neg wanted] at read
        have different : name ≠ field.1 := by
          rintro rfl
          exact wanted (List.contains_iff_mem.mpr asked)
        rw [if_neg different, ih others read]

/-- A record written as a list names its items in the order of its fields. -/
theorem lookup_zip_ofItems (names : List String) (items : List Json) (name : String) :
    (names.zip (Raw.ofItems items)).lookup name =
      ((names.zip items).lookup name).map Raw.ofValue := by
  induction items generalizing names with
  | nil =>
      rw [Raw.ofItems, List.zip_nil_right, List.zip_nil_right]
      rfl
  | cons item rest ih =>
      cases names with
      | nil => rfl
      | cons first names =>
          rw [Raw.ofItems, List.zip_cons_cons, List.zip_cons_cons, OrderedMap.lookup_cons_eq_ite,
            OrderedMap.lookup_cons_eq_ite, ih]
          by_cases same : name = first
          · rw [if_pos same, if_pos same]
            rfl
          · rw [if_neg same, if_neg same]

/-- **The fields of a record** are those that the value has, wherever it writes them. -/
theorem lookup_fields {names : List String} {name : String} (asked : name ∈ names) {room : Nat}
    {value : Json} (sound : value.WellFormed) {read : Fields}
    (given : fields names room (Raw.ofValue value) = some read) :
    read.present.lookup name = (value.recordField? names name).map Raw.ofValue := by
  cases room with
  | zero => cases value <;> exact nomatch given
  | succ room =>
      cases value with
      | null | bool _ | num _ | str _ => exact nomatch given
      | arr items =>
          rw [Raw.ofValue, fields, Option.ite_none_right_eq_some] at given
          cases given.2
          exact lookup_zip_ofItems names items name
      | obj entries =>
          rw [Raw.ofValue, fields] at given
          obtain ⟨present, collected, rfl⟩ := Option.map_eq_some_iff.mp given
          rw [lookup_collect asked sound.1 collected, List.lookup_nil, Option.or_none]
          rfl

section Fields

variable {α : Type} {names : List String} {name : String} {room : Nat} {value inner : Json}
  {read : Fields} (decode : Decoder α)

/-- A required field is decoded from what the record holds there. -/
theorem required_of_recordField? (found : value.recordField? names name = some inner)
    (asked : name ∈ names) (sound : value.WellFormed)
    (given : fields names room (Raw.ofValue value) = some read) :
    read.required name decode = decode read.room (Raw.ofValue inner) := by
  rw [Fields.required, lookup_fields asked sound given, found]
  rfl

/-- An optional one that is there is decoded likewise. -/
theorem optional_of_recordField? (default : α) (found : value.recordField? names name = some inner)
    (asked : name ∈ names) (sound : value.WellFormed)
    (given : fields names room (Raw.ofValue value) = some read) :
    read.optional name decode default = decode read.room (Raw.ofValue inner) := by
  rw [Fields.optional, lookup_fields asked sound given, found]
  rfl

end Fields

/-- A decoder that allows null decodes anything else as before. -/
theorem nullable_of_ne_null {α : Type} (decode : Decoder α) {room : Nat} {value : Json}
    (something : value ≠ .null) :
    nullable decode room (Raw.ofValue value) = (decode room (Raw.ofValue value)).map some := by
  cases value with
  | null => exact (something rfl).elim
  | bool _ | num _ | str _ | arr _ | obj _ => rfl

/-- A decoded list holds for each item its decoded value. -/
theorem forall₂_of_each {α : Type} {decode : Raw → Option α} {items : List Json} {values : List α}
    (read : each decode (Raw.ofItems items) = some values) :
    List.Forall₂ (fun item value => decode (Raw.ofValue item) = some value) items values := by
  induction items generalizing values with
  | nil =>
      cases read
      exact .nil
  | cons item rest ih =>
      rw [Raw.ofItems, each] at read
      obtain ⟨value, own, read⟩ := Option.bind_eq_some_iff.mp read
      obtain ⟨others, later, read⟩ := Option.bind_eq_some_iff.mp read
      obtain rfl := Option.some.inj read
      exact .cons own (ih later)

/-- Each item of a list is decoded to the entry in its place. -/
theorem exists_entry_of_list {α : Type} {decode : Decoder α} {room : Nat} {value item : Json}
    {entries : List α} {index : Nat} (found : value.child? (.item index) = some item)
    (read : list decode room (.ofValue value) = some entries) :
    ∃ entry room, entries[index]? = some entry ∧ decode room (.ofValue item) = some entry := by
  cases value with
  | arr items =>
      cases room with
      | zero => exact nomatch read
      | succ room =>
          rw [Raw.ofValue, list] at read
          obtain ⟨entry, own, present⟩ :=
            exists_getElem?_of_forall₂ _ (forall₂_of_each read) found
          exact ⟨entry, room, present, own⟩
  | null | bool _ | num _ | str _ | obj _ => exact nomatch found

end Decoder

end Json

/-! ## From the document to the action -/

open Json.Decoder

/-- The name of the field that a side of an action is written in. -/
def ViewMode.fieldName : ViewMode → String
  | .edit => "unpublished"
  | .view => "published"

/-- The fields of a side in their declared order. -/
def ActionDefinition.fieldNames : List String := ["datasourceId", "configuration", "timeoutMs"]

/-- The fields of a manifest in their declared order. -/
def Manifest.fieldNames : List String := ["applications", "datasources", "actions"]

/-- A decoded definition holds its configuration as written. -/
theorem ActionDefinition.configuration_of_decoder {room : Nat} {side written : Json}
    {definition : ActionDefinition} (sound : side.WellFormed)
    (found : side.recordField? fieldNames "configuration" = some written)
    (read : decoder room (.ofValue side) = some definition) :
    definition.configuration = written := by
  obtain ⟨fields, given, read⟩ := Option.bind_eq_some_iff.mp read
  obtain ⟨datasourceId, -, read⟩ := Option.bind_eq_some_iff.mp read
  obtain ⟨configuration, held, read⟩ := Option.bind_eq_some_iff.mp read
  obtain ⟨timeoutMs, -, read⟩ := Option.bind_eq_some_iff.mp read
  cases read
  rw [optional_of_recordField? _ _ found (by decide) sound given] at held
  exact Json.eq_of_value?_ofValue written (sound.recordField? found) held

/-- A decoded action holds the definition of a mode that is not null. -/
theorem Action.definition_of_entryDecoder {room : Nat} {record side : Json} {action : Action}
    {mode : ViewMode} (sound : record.WellFormed)
    (found : record.recordField? fieldNames mode.fieldName = some side) (held : side ≠ .null)
    (read : entryDecoder room (.ofValue record) = some action) :
    ∃ definition room, action.definition? mode = some definition ∧
      ActionDefinition.decoder room (.ofValue side) = some definition := by
  obtain ⟨fields, given, read⟩ := Option.bind_eq_some_iff.mp read
  obtain ⟨id, -, read⟩ := Option.bind_eq_some_iff.mp read
  obtain ⟨baseId, -, read⟩ := Option.bind_eq_some_iff.mp read
  obtain ⟨applicationId, -, read⟩ := Option.bind_eq_some_iff.mp read
  obtain ⟨branchName, -, read⟩ := Option.bind_eq_some_iff.mp read
  obtain ⟨name, -, read⟩ := Option.bind_eq_some_iff.mp read
  obtain ⟨plugin, -, read⟩ := Option.bind_eq_some_iff.mp read
  obtain ⟨draft, unpublished, read⟩ := Option.bind_eq_some_iff.mp read
  obtain ⟨published, viewed, read⟩ := Option.bind_eq_some_iff.mp read
  cases read
  cases mode with
  | edit =>
      rw [ViewMode.fieldName] at found
      rw [required_of_recordField? _ found (by decide) sound given] at unpublished
      exact ⟨draft, _, rfl, unpublished⟩
  | view =>
      rw [ViewMode.fieldName] at found
      rw [optional_of_recordField? _ _ found (by decide) sound given,
        nullable_of_ne_null _ held] at viewed
      obtain ⟨definition, decoded, rfl⟩ := Option.map_eq_some_iff.mp viewed
      exact ⟨definition, _, rfl, decoded⟩

/-- A JSON document is read by the JSON reader. -/
theorem DocumentFormat.read_json {content : String} {document : Json}
    (given : Json.ofText? content = some document) : json.read content = .ok document := by
  rw [read, given]
  rfl

/-- A document is decoded when its variables resolve and what they leave is decoded. -/
theorem Variables.decode_eq_ok_iff {α : Type} {known : Variables} {decoder : Json.Decoder α}
    {document : Json} {value : α} :
    known.decode decoder document = .ok value ↔
      ∃ resolved, known.ResolvesTo document resolved ∧
        decoder.ofValue? resolved = some value := by
  unfold Variables.decode Variables.ResolvesTo
  cases known.resolve document with
  | error cause => simp
  | ok resolved => cases decodes : decoder.ofValue? resolved <;> simp [decodes]

namespace Manifest

/-- **The configuration of an action as a document writes it**, for one side of the action at an
index. -/
def writtenConfiguration? (document : Json) (index : Nat) (mode : ViewMode) : Option Json := do
  let actions ← document.recordField? fieldNames "actions"
  let record ← actions.child? (.item index)
  let side ← record.recordField? Action.fieldNames mode.fieldName
  side.recordField? ActionDefinition.fieldNames "configuration"

/-- A configuration stays at its place when the variables are resolved. -/
theorem exists_written_of_resolve {known : Variables} {document resolved written : Json}
    {index : Nat} {mode : ViewMode} (resolves : known.ResolvesTo document resolved)
    (found : writtenConfiguration? document index mode = some written) :
    ∃ configuration, known.ResolvesTo written configuration ∧
      writtenConfiguration? resolved index mode = some configuration := by
  obtain ⟨actions, hasActions, found⟩ := Option.bind_eq_some_iff.mp found
  obtain ⟨record, hasRecord, found⟩ := Option.bind_eq_some_iff.mp found
  obtain ⟨side, hasSide, found⟩ := Option.bind_eq_some_iff.mp found
  obtain ⟨_, toActions, inActions⟩ := Variables.exists_recordField?_of_resolve resolves hasActions
  obtain ⟨_, toRecord, inRecord⟩ := Variables.exists_child?_of_resolve toActions hasRecord
  obtain ⟨_, toSide, inSide⟩ := Variables.exists_recordField?_of_resolve toRecord hasSide
  obtain ⟨configuration, toWritten, reached⟩ :=
    Variables.exists_recordField?_of_resolve toSide found
  refine ⟨configuration, toWritten, ?_⟩
  simp only [writtenConfiguration?, bind, Option.bind, inActions, inRecord, inSide, reached]

/-- A decoded manifest holds each configuration as the document writes it. -/
theorem exists_definition_of_decoder {room : Nat} {document written : Json} {manifest : Manifest}
    {index : Nat} {mode : ViewMode} (sound : document.WellFormed)
    (found : writtenConfiguration? document index mode = some written)
    (read : decoder room (.ofValue document) = some manifest) :
    ∃ action definition, manifest.actions[index]? = some action ∧
      action.definition? mode = some definition ∧ definition.configuration = written := by
  obtain ⟨actions, hasActions, found⟩ := Option.bind_eq_some_iff.mp found
  obtain ⟨record, hasRecord, found⟩ := Option.bind_eq_some_iff.mp found
  obtain ⟨side, hasSide, found⟩ := Option.bind_eq_some_iff.mp found
  obtain ⟨fields, given, read⟩ := Option.bind_eq_some_iff.mp read
  obtain ⟨applications, -, read⟩ := Option.bind_eq_some_iff.mp read
  obtain ⟨datasources, -, read⟩ := Option.bind_eq_some_iff.mp read
  obtain ⟨decoded, listed, read⟩ := Option.bind_eq_some_iff.mp read
  cases read
  rw [optional_of_recordField? _ _ hasActions (by decide) sound given] at listed
  have soundRecord := (sound.recordField? hasActions).child? hasRecord
  have held : side ≠ .null := by
    rintro rfl
    exact nomatch found
  obtain ⟨action, entryRoom, present, entry⟩ := exists_entry_of_list hasRecord listed
  obtain ⟨definition, sideRoom, chosen, own⟩ :=
    Action.definition_of_entryDecoder soundRecord hasSide held entry
  have soundSide := soundRecord.recordField? hasSide
  exact ⟨action, definition, present, chosen,
    ActionDefinition.configuration_of_decoder soundSide found own⟩

variable {known : Variables} {content : String} {format : DocumentFormat} {document : Json}
  {manifest : Manifest}

/-- **The configuration of a loaded action** is the written one with its references resolved. -/
theorem exists_definition_of_parse (read : format.read content = .ok document)
    (parsed : parse known content format = .ok manifest) {index : Nat} {mode : ViewMode}
    {written : Json} (found : writtenConfiguration? document index mode = some written) :
    ∃ action definition, manifest.actions[index]? = some action ∧
      action.definition? mode = some definition ∧
      known.ResolvesTo written definition.configuration := by
  obtain ⟨other, again, decoded, -⟩ := parse_eq_ok_iff.mp parsed
  obtain rfl := Except.ok.inj (read.symm.trans again)
  obtain ⟨resolved, resolves, decodes⟩ := Variables.decode_eq_ok_iff.mp decoded
  obtain ⟨configuration, toWritten, reached⟩ := exists_written_of_resolve resolves found
  have sound := Variables.wellFormed_of_resolve document
    (DocumentFormat.wellFormed_of_read read) resolves
  obtain ⟨action, definition, present, chosen, same⟩ :=
    exists_definition_of_decoder sound reached decodes
  exact ⟨action, definition, present, chosen, same ▸ toWritten⟩

end Manifest

/-! ## Templates in configurations -/

namespace BindingTemplate

/-- **The template is kept by loading**: wherever a definition file has it in the configuration of
an action, the action that is loaded from the file has it there. -/
def KeptByLoading (template : BindingTemplate) : Prop :=
  ∀ (known : Variables) (content : String) (format : DocumentFormat) (document : Json)
    (manifest : Manifest) (index : Nat) (mode : ViewMode) (written : Json) (place : List Json.Step),
    format.read content = .ok document → Manifest.parse known content format = .ok manifest →
    Manifest.writtenConfiguration? document index mode = some written →
    written.at? place = some (.str template.text) →
    ∃ action definition, manifest.actions[index]? = some action ∧
      action.definition? mode = some definition ∧
      definition.configuration.at? place = some (.str template.text)

/-- **Which templates survive.** With any variables a template is resolved to itself, and is kept by
loading, exactly when none of its placeholders follows a dollar sign. -/
theorem survives_iff (template : BindingTemplate) :
    (∀ known : Variables, known.resolve (.str template.text) = .ok (.str template.text)) ∧
        template.KeptByLoading ↔
      template.dollared = [] := by
  constructor
  · rintro ⟨same, -⟩
    exact (resolve_eq_self_iff template).mp same
  · intro apart
    refine ⟨resolve_of_not_dollared apart, ?_⟩
    intro known content format document manifest index mode written place read parsed found here
    obtain ⟨action, definition, present, chosen, resolves⟩ :=
      Manifest.exists_definition_of_parse read parsed found
    obtain ⟨kept, own, there⟩ := Variables.exists_at?_of_resolve resolves here
    have same : known.resolve (.str template.text) = .ok kept := own
    rw [resolve_of_not_dollared apart known] at same
    cases same
    exact ⟨action, definition, present, chosen, there⟩

/-- A placeholder that stands for itself. -/
def queryTemplate : BindingTemplate where
  pieces := ⟨"id = ".toList, [("id", [])]⟩
  literal := by decide +kernel
  named := by simp [Text.Pieces.markers]

/-- A configuration with the placeholder in its body. -/
def queryConfiguration : Json := .obj [("body", .str queryTemplate.text)]

/-- A manifest whose one query holds a placeholder. -/
def queryContent : String :=
  "[[[\"a\",\"\"]],[[\"d\",\"\",\"q\"]],[[\"r\",null,\"a\",null,\"\",\"q\"," ++
    "[\"d\",\x7b\"body\":\"id = \x7b\x7bid\x7d\x7d\"\x7d]]]]"

/-- The document it is read as. -/
def queryDocument : Json := .arr [
  .arr [.arr [.str "a", .str ""]],
  .arr [.arr [.str "d", .str "", .str "q"]],
  .arr [.arr [.str "r", .null, .str "a", .null, .str "", .str "q",
    .arr [.str "d", queryConfiguration]]]]

/-- The manifest it is parsed to. -/
def queryManifest : Manifest where
  applications := [⟨"a", "", none, []⟩]
  datasources := [⟨"d", "", "q", []⟩]
  actions := [⟨"r", "r", "a", none, "", "q", ⟨"d", queryConfiguration, none⟩, none⟩]

set_option maxRecDepth 20000 in
/-- The placeholder of the query survives loading. -/
theorem survives_iff_query :
    queryTemplate.dollared = [] ∧ DocumentFormat.json.read queryContent = .ok queryDocument ∧
      Manifest.parse ⟨[], fun _ => none⟩ queryContent .json = .ok queryManifest ∧
      ∃ action definition, queryManifest.actions[0]? = some action ∧
        action.definition? .edit = some definition ∧
        definition.configuration.at? [.field "body"] = some (.str queryTemplate.text) := by
  have apart : queryTemplate.dollared = [] := by decide
  have read : DocumentFormat.json.read queryContent = .ok queryDocument := by
    have given : Json.ofText? queryContent = some queryDocument := by decide +kernel
    rw [DocumentFormat.read, given]
    rfl
  have parsed : Manifest.parse ⟨[], fun _ => none⟩ queryContent .json = .ok queryManifest :=
    Manifest.parse_of_toOption (by decide +kernel)
  have kept := ((survives_iff queryTemplate).mpr apart).2
  exact ⟨apart, read, parsed,
    kept _ _ .json _ _ 0 .edit queryConfiguration [.field "body"] read parsed rfl rfl⟩

/-- A price, with a currency sign before the placeholder for it. -/
def priceTemplate : BindingTemplate where
  pieces := ⟨"costs $".toList, [("price", [])]⟩
  literal := by decide +kernel
  named := by simp [Text.Pieces.markers]

/-- A currency sign before a placeholder makes a reference out of it. -/
theorem dollared_placeholder_is_captured :
    priceTemplate.text = "costs $\x7b\x7bprice\x7d\x7d" ∧
      Variables.resolve ⟨Variables.defaultPrefixes, fun _ => none⟩ (.str priceTemplate.text) =
        .error (.notAllowed "\x7bprice" Variables.defaultPrefixes) ∧
      Variables.resolve ⟨[], fun _ => some "5"⟩ (.str priceTemplate.text) =
        .ok (.str "costs 5\x7d") := by
  refine ⟨by decide, ?_, ?_⟩
  · rfl
  · rfl

end BindingTemplate

end ActionGateway
