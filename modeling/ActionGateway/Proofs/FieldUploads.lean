import ActionGateway.CommandLine.Run
import ActionGateway.Proofs.BindingLayers
import ActionGateway.Proofs.ChunkedBodies
import ActionGateway.Proofs.EntryPoints
import ActionGateway.Proofs.RecordOrders
import ActionGateway.Proofs.WrittenRecords

/-!
# Uploads of plain fields

An action can be executed with query parameters or as an upload. The upload travels as parts: a
descriptor in JSON, which is read back as it was written, and one part of text for each field. The
fields bind what query parameters of the same names bind, in the same order. So both ways lead to
the same answer.
-/

namespace ActionGateway

namespace Intake

variable {settings : UploadSettings} {spool : Spool}

/-- A field that fits is read as the content it was sent with. -/
theorem readField_ofBytes (name : String) (filename contentType : Option String) {content : Bytes}
    (fits : content.length ≤ settings.maxFieldBytes) :
    readField settings (.ofBytes name filename contentType content) = .done content := by
  have whole : [content].flatten = content := List.flatten_singleton
  have read := readField_ofChunks name filename contentType (whole.symm ▸ fits)
  rw [whole] at read
  exact read

/-- A fitting field read as JSON is its content decoded, or refused by its name. -/
theorem readJson_ofBytes {α : Type} (decode : Json.Decoder α) (name : String)
    (filename contentType : Option String) {content : Bytes}
    (fits : content.length ≤ settings.maxFieldBytes) :
    readJson settings decode (.ofBytes name filename contentType content) =
      .ofOption (decode.ofBytes? content) (.malformed (.notJson name)) := by
  rw [readJson, readField_ofBytes name filename contentType fits]
  rfl

/-- A text part is a field and never an attachment. -/
theorem not_isAttachment_text (name value : String) :
    (UploadPart.text name value).isAttachment = false := rfl

/-- A named text part that fits and has no role of its own carries its text as a value. -/
theorem content_text {name value : String} (named : name ≠ "") (plain : name ≠ descriptorName)
    (single : name ≠ parameterMapName)
    (fits : (Bytes.ofText value).length ≤ settings.maxFieldBytes) :
    (UploadPart.text name value).content settings spool = .done (.value name (.str value)) := by
  have own : (UploadPart.text name value).name = name := rfl
  have visible : ¬ name.isEmpty = true := by
    rwa [String.isEmpty_iff]
  have charset : (UploadPart.text name value).kind.unsupportedCharset? = none := rfl
  have read : readValue settings (.text name value) = .done (.str value) := by
    rw [readValue, charset]
    simp only [UploadPart.text, readField_ofBytes name none none fits]
    change ContentKind.value ⟨"", none⟩ name (Bytes.ofText value) = _
    have notJson : ContentKind.isJson ⟨"", none⟩ = false := by decide
    rw [ContentKind.value, notJson, if_neg Bool.false_ne_true, Bytes.text?_ofText]
    rfl
  rw [UploadPart.content, own, if_neg visible, if_neg plain, if_neg single,
    not_isAttachment_text, if_neg Bool.false_ne_true, read]
  rfl

end Intake

namespace Command

open OrderedMap (latest?)

variable (target : CommandTarget) (options : RunOptions)

/-- The fields of the descriptor a command sends: its target, its mode and the limits asked for. -/
def descriptorFields : List (String × Json) :=
  [("actionId", .str target.actionId), ("viewMode", .bool (target.viewMode == .view))] ++
    (if options.substitutionMode = .lenient then
      [("substitutionMode", .str options.substitutionMode.name)] else []) ++
    (options.timeoutMs.map fun timeoutMs => ("timeoutMs", Json.ofNat timeoutMs)).toList

/-- The descriptor part is the object of these fields, sent as JSON. -/
theorem descriptorPart_eq :
    descriptorPart target options =
      .json descriptorName (Json.object (descriptorFields target options)) := rfl

/-- What the descriptor of a command says. -/
def descriptor : Descriptor where
  actionId := some target.actionId
  viewMode := target.viewMode == .view
  params := .none
  bindings := .empty
  timeoutMs := options.timeoutMs
  substitutionMode := if options.substitutionMode = .lenient then some .lenient else none

/-- What a reader finds under each field name of the descriptor. -/
theorem latest?_descriptorFields :
    let fields := descriptorFields target options
    latest? fields "actionId" = some (.str target.actionId) ∧
      latest? fields "viewMode" = some (.bool (target.viewMode == .view)) ∧
      latest? fields "queryParams" = none ∧ latest? fields "headerParams" = none ∧
      latest? fields "params" = none ∧
      latest? fields "timeoutMs" = options.timeoutMs.map Json.ofNat ∧
      latest? fields "substitutionMode" =
        (descriptor target options).substitutionMode.map fun mode => .str mode.name := by
  obtain ⟨mode, timeoutMs, format, output⟩ := options
  cases mode <;> cases timeoutMs <;> exact ⟨rfl, rfl, rfl, rfl, rfl, rfl, rfl⟩

variable {options}

/-- The service reads the fields of a command back as the descriptor meant. -/
theorem reads_descriptor (timed : ∀ timeoutMs, options.timeoutMs = some timeoutMs →
    timeoutMs < Nat.pow 2 64) :
    Json.Decoder.Reads Descriptor.decoder (Json.object (descriptorFields target options))
      (descriptor target options) := by
  intro room fits
  obtain ⟨actionId, viewMode, query, header, params, timeoutMs, mode⟩ :=
    latest?_descriptorFields target options
  obtain ⟨read, fields, shown⟩ := Json.Decoder.exists_show_fields
    ["actionId", "viewMode", "queryParams", "headerParams", "params", "timeoutMs",
      "substitutionMode"] _ fits
  have named := shown.optional "actionId" none
    ((Json.Decoder.reads_text target.actionId).nullable nofun) (by decide) actionId
  have side := shown.optional "viewMode" false (Json.Decoder.reads_flag _) (by decide) viewMode
  have limit := shown.optional_nullable "timeoutMs" (fun ms given =>
    ⟨Json.Decoder.reads_unsigned (timed ms given), nofun⟩) (by decide) timeoutMs
  have lenient : read.optional "substitutionMode" (.nullable SubstitutionMode.decoder) none =
      some (descriptor target options).substitutionMode :=
    shown.optional_nullable "substitutionMode" (fun mode _ =>
      ⟨Json.Decoder.reads_choice (by cases mode <;> rfl), nofun⟩) (by decide) mode
  unfold Descriptor.decoder
  rw [fields]
  simp only [Option.bind_eq_bind, Option.bind_some, named, side, limit, lenient,
    shown.optional_absent "queryParams" _ (by decide) query,
    shown.optional_absent "headerParams" _ (by decide) header,
    shown.optional_absent "params" _ (by decide) params]
  rfl

/-- A property of texts, flags and the timeout sent holds of every field of the descriptor. -/
theorem forall_descriptorFields {motive : Json → Prop} (text : ∀ content, motive (.str content))
    (flag : ∀ set, motive (.bool set))
    (number : ∀ timeoutMs, options.timeoutMs = some timeoutMs → motive (Json.ofNat timeoutMs)) :
    ∀ field ∈ descriptorFields target options, motive field.2 := by
  obtain ⟨mode, timeoutMs, format, output⟩ := options
  intro field member
  rcases List.mem_append.mp member with before | timeout
  · rcases List.mem_append.mp before with always | lenient
    · simp only [List.mem_cons, List.not_mem_nil, or_false] at always
      rcases always with rfl | rfl
      · exact text _
      · exact flag _
    · cases mode with
      | strict => exact nomatch lenient
      | lenient =>
          obtain rfl := List.mem_singleton.mp lenient
          exact text _
  · cases timeoutMs with
    | none => exact nomatch timeout
    | some ms =>
        obtain rfl := List.mem_singleton.mp timeout
        exact number ms rfl

/-- The descriptor nests nothing. -/
theorem depth_descriptor_le : (Json.object (descriptorFields target options)).depth ≤ 1 :=
  Json.depth_object_le (forall_descriptorFields (motive := fun value => value.depth ≤ 0) target
    (fun _ => le_rfl) (fun _ => le_rfl) fun _ _ => le_rfl)

/-- Its numbers are integers that fit 64 bits. -/
theorem isIntegral_descriptor (timed : ∀ timeoutMs, options.timeoutMs = some timeoutMs →
    timeoutMs < Nat.pow 2 64) :
    (Json.object (descriptorFields target options)).IsIntegral := by
  refine Json.isIntegral_object (forall_descriptorFields target (fun _ => trivial)
    (fun _ => trivial) fun timeoutMs given => ?_)
  have low : -(Nat.pow 2 63 : Int) ≤ timeoutMs :=
    (Int.neg_nonpos_of_nonneg (Int.natCast_nonneg _)).trans (Int.natCast_nonneg timeoutMs)
  exact ⟨low, Int.ofNat_lt.mpr (timed timeoutMs given)⟩

/-- **The descriptor of a command is read as what it says.** -/
theorem content_descriptorPart {settings : UploadSettings} (spool : Spool)
    (named : Text.isBlankText target.actionId = false)
    (timed : ∀ timeoutMs, options.timeoutMs = some timeoutMs → timeoutMs < Nat.pow 2 64)
    (fits : (Bytes.ofText (Json.object (descriptorFields target options)).compact).length ≤
      settings.maxFieldBytes) :
    (descriptorPart target options).content settings spool =
      .done (.descriptor (descriptor target options)) := by
  have own : (descriptorPart target options).name = descriptorName := rfl
  have visible : ¬ descriptorName.isEmpty = true := by decide
  have decoded := reads_descriptor target timed Json.maxDepth
    ((depth_descriptor_le target).trans (by decide))
  have read : Intake.readJson settings Descriptor.decoder (descriptorPart target options) =
      .done (descriptor target options) := by
    rw [descriptorPart_eq, UploadPart.json, Intake.readJson_ofBytes _ _ _ _ fits,
      Json.Decoder.ofBytes?, Json.Raw.ofBytes?_compact (isIntegral_descriptor target timed),
      Option.bind_some, decoded, Outcome.ofOption]
  have accepted : (descriptor target options).hint =
      .ok ⟨target.actionId, .ofFlag (target.viewMode == .view)⟩ := by
    have action : (descriptor target options).action? = some target.actionId := by
      change Text.nonBlank target.actionId = _
      rw [Text.nonBlank, named]
      rfl
    exact Descriptor.hint_eq_ok_iff.mpr ⟨action, rfl, rfl⟩
  rw [UploadPart.content, own, if_neg visible, if_pos rfl, read]
  change (Outcome.ofExcept (descriptor target options).hint >>= _) = _
  rw [accepted]
  rfl

end Command

/-! ## Taking in fields -/

namespace Intake

variable {settings : UploadSettings} {spool : Spool}

/-- Parts beside the descriptor are taken in one after the other. -/
theorem takeAll_of_contents {parts : List UploadPart} {contents : List PartContent}
    (brought : List.Forall₂ (fun part content => part.name ≠ descriptorName ∧
      part.content settings spool = .done content) parts contents) (intake : Intake) :
    intake.takeAll settings spool (parts.map Arrival.part) =
      (contents.foldl add intake, .done ()) := by
  induction brought generalizing intake with
  | nil => rfl
  | @cons part content parts contents own _ ih =>
      have taken : intake.take settings spool part = .done (intake.add content) := by
        rw [take_eq (fun named => absurd named own.1), own.2]
        rfl
      rw [List.map_cons, takeAll_cons_of_take taken, ih, List.foldl_cons]

/-- Adding text fields one by one inserts them in their order. -/
theorem foldl_add_values (fields : List (String × String)) (intake : Intake) :
    (fields.map fun field => PartContent.value field.1 (.str field.2)).foldl add intake =
      { intake with
        values := intake.values.insertAll (fields.map fun field => (field.1, .str field.2)) } := by
  induction fields generalizing intake with
  | nil => rfl
  | cons field rest ih =>
      rw [List.map_cons, List.foldl_cons, ih]
      rfl

end Intake

/-! ## Commands -/

namespace Workplace

/-- The workplace where the store of a command holds its records in another order. -/
def arranged (workplace : Workplace) (arrangement : Arrangement) : Workplace :=
  { workplace with arrangement := arrangement }

/-- What a manifest defines, in the order of the store. -/
theorem definitions_eq_map (workplace : Workplace) (path : String) :
    workplace.definitions path =
      (workplace.manifest path).map fun manifest =>
        workplace.arrangement.arrange (.ofManifest manifest) := by
  unfold definitions
  cases workplace.manifest path <;> rfl

/-- A workplace reads the manifest of a definitions file that parses. -/
theorem manifest_of_text {workplace : Workplace} {path content : String}
    {format : DocumentFormat} {manifest : Manifest}
    (there : workplace.files path = .file (Bytes.ofText content))
    (named : DocumentFormat.ofPath path = .ok format)
    (parsed : Manifest.parse workplace.knownVariables content format = .ok manifest) :
    workplace.manifest path = .ok manifest := by
  have present : workplace.files.checkPresent path = .ok () := by
    rw [Files.checkPresent, there]
    rfl
  have text : (workplace.files path).text = .ok content := by
    rw [there, FileState.text, Bytes.text?_ofText]
    rfl
  have loaded : Manifest.load workplace.knownVariables path (.ok content) = .ok manifest := by
    rw [Manifest.load, loadFile, named]
    exact parsed
  unfold Workplace.manifest
  simp only [bind, Except.bind, present, text, loaded, Except.mapError]

end Workplace

/-- The key that the invocation of a command asks for. -/
def CommandTarget.key (target : CommandTarget) (settings : Settings) : ContextKey :=
  .ofCall settings.defaultEnvironment target.actionId (target.branch.bind Text.nonBlank)
    target.environmentId target.viewMode

namespace Command

variable (target : CommandTarget) (options : RunOptions)

/-- The invocation that query parameters ask for. -/
def queried (fields : List (String × String)) : Invocation where
  actionId := target.actionId
  branchName := target.branch
  params := ⟨fields.map fun field => ⟨field.1, field.2⟩, []⟩
  bindings := .empty
  viewMode := target.viewMode
  substitutionMode := options.substitutionMode
  timeoutMs := options.timeoutMs
  attachments := []

/-- The invocation that an upload of fields asks for. -/
def uploaded (fields : List (String × String)) : Invocation where
  actionId := target.actionId
  branchName := none
  params := .none
  bindings := .ofList (fields.map fun field => (field.1, .str field.2))
  viewMode := target.viewMode
  substitutionMode := options.substitutionMode
  timeoutMs := TimeoutPolicy.positive options.timeoutMs
  attachments := []

/-- What is taken in of an upload of fields. -/
def fieldIntake (fields : List (String × String)) : Intake where
  descriptor := some (descriptor target options)
  parameterMap := .empty
  values := .ofList (fields.map fun field => (field.1, .str field.2))
  attachments := []
  told := (descriptor target options).hint.toOption.toList

/-- The bindings of a field upload are its fields, the last of a name winning. -/
theorem bindings_fieldIntake (fields : List (String × String)) :
    (fieldIntake target options fields).bindings =
      .ofList (fields.map fun field => (field.1, .str field.2)) := by
  have kept : (fieldIntake target options fields).unmapped =
      (fieldIntake target options fields).values.entries :=
    List.filter_eq_self.mpr fun _ _ => rfl
  have renamed : (fieldIntake target options fields).mapped = [] := rfl
  rw [Intake.bindings, kept, renamed, List.append_nil]
  exact OrderedMap.insertAll_ofList .empty _

/-- A target with an action id names it in the descriptor. -/
theorem action?_descriptor (action : Text.isBlankText target.actionId = false) :
    (descriptor target options).action? = some target.actionId := by
  change Text.nonBlank target.actionId = _
  rw [Text.nonBlank, action]
  rfl

/-- The intake of a field upload asks for the invocation of its fields. -/
theorem invocation_fieldIntake (action : Text.isBlankText target.actionId = false)
    (fields : List (String × String)) :
    (fieldIntake target options fields).invocation = .ok (uploaded target options fields) := by
  have side : ViewMode.ofFlag (target.viewMode == .view) = target.viewMode := by
    cases target.viewMode <;> rfl
  have mode : (if options.substitutionMode = .lenient then some SubstitutionMode.lenient
      else none).getD .strict = options.substitutionMode := by
    cases options.substitutionMode <;> rfl
  have bound : OrderedMap.empty.insertAll (fieldIntake target options fields).bindings.entries =
      .ofList (fields.map fun field => (field.1, .str field.2)) := by
    rw [bindings_fieldIntake]
    exact OrderedMap.insertAll_ofList .empty _
  have asked := action?_descriptor target options action
  have held : (fieldIntake target options fields).descriptor = some (descriptor target options) :=
    rfl
  refine Intake.invocation_eq_ok_iff.mpr ⟨_, target.actionId, held, asked, ?_⟩
  simp only [Intake.invocationOf, descriptor, side, mode, bound]
  rfl

/-- Fields that all have names leave no unnamed parameter. -/
theorem hasUnnamed_queried {fields : List (String × String)}
    (named : ∀ field ∈ fields, field.1 ≠ "") :
    (queried target options fields).params.hasUnnamed = false := by
  refine List.any_eq_false.mpr fun parameter member => ?_
  obtain ⟨field, present, rfl⟩ := List.mem_map.mp member
  rw [Parameter.isUnnamed, String.isEmpty_iff]
  exact named field present

/-- Query parameters bind what fields of the same names bind. -/
theorem mergedBindings_queried {fields : List (String × String)}
    (named : ∀ field ∈ fields, field.1 ≠ "") :
    (queried target options fields).mergedBindings =
      .ofList (fields.map fun field => (field.1, .str field.2)) := by
  have bound := CallParameters.bindOnto_eq_insertAll_of_named
    (hasUnnamed_queried target options named) .empty
  have written : (queried target options fields).params.query.map Parameter.binding =
      fields.map fun field => (field.1, Json.str field.2) :=
    List.map_map
  rw [written] at bound
  exact bound

/-- **Fields ask for what query parameters of the same names ask for.** -/
theorem agree_uploaded {fields : List (String × String)} (named : ∀ field ∈ fields, field.1 ≠ "") :
    Invocation.Agree { uploaded target options fields with branchName := target.branch }
      (queried target options fields) where
  actionId := rfl
  branchName := rfl
  viewMode := rfl
  named := by
    rw [CallParameters.checkNamed_eq_ok (hasUnnamed_queried target options named)]
    rfl
  bindings := by
    rw [mergedBindings_queried target options named]
    exact OrderedMap.insertAll_ofList .empty _
  substitutionMode := rfl
  timeoutMs := TimeoutPolicy.positive_positive options.timeoutMs
  attachments := rfl

variable {target options}

/-- Plain fields that fit an upload: they do not take the names of the parts that stand for
something else, and neither their values nor the descriptor is larger than a part may be. -/
structure FitUpload (settings : UploadSettings) (target : CommandTarget) (arguments : List String)
    (options : RunOptions) : Prop where
  actionNamed : Text.isBlankText target.actionId = false
  timeoutFits : ∀ timeoutMs, options.timeoutMs = some timeoutMs → timeoutMs < Nat.pow 2 64
  descriptorFits : (Bytes.ofText (Json.object (descriptorFields target options)).compact).length ≤
    settings.maxFieldBytes
  fieldsFit : ∀ argument ∈ arguments, ∀ name value, NamedValue.parse argument = .ok (name, value) →
    name ≠ descriptorName ∧ name ≠ parameterMapName ∧
      (Bytes.ofText value).length ≤ settings.maxFieldBytes

/-- Every parsed field comes from one of the arguments. -/
theorem exists_argument_of_parseAll {arguments : List String} {fields : List (String × String)}
    (parsed : NamedValue.parseAll NamedValue.parse arguments = .ok fields) :
    ∀ field ∈ fields, ∃ argument ∈ arguments, NamedValue.parse argument = .ok field := by
  induction arguments generalizing fields with
  | nil =>
      cases parsed
      exact nofun
  | cons argument rest ih =>
      rw [NamedValue.parseAll] at parsed
      cases own : NamedValue.parse argument with
      | error cause =>
          rw [own] at parsed
          exact nomatch parsed
      | ok first =>
          cases others : NamedValue.parseAll NamedValue.parse rest with
          | error cause =>
              rw [own, others] at parsed
              exact nomatch parsed
          | ok later =>
              rw [own, others] at parsed
              cases parsed
              refine List.forall_mem_cons.mpr ⟨⟨argument, List.mem_cons_self, own⟩, ?_⟩
              intro field member
              obtain ⟨other, present, read⟩ := ih others field member
              exact ⟨other, List.mem_cons_of_mem _ present, read⟩

/-- An argument that parses has a name. -/
theorem name_ne_empty_of_parse {argument name value : String}
    (parsed : NamedValue.parse argument = .ok (name, value)) : name ≠ "" := by
  unfold NamedValue.parse at parsed
  split at parsed
  · next given _ _ _ =>
      by_cases blank : Text.isBlankText (String.ofList given) = true
      · rw [if_pos blank] at parsed
        exact nomatch parsed
      · rw [if_neg blank] at parsed
        cases parsed
        exact fun nothing => blank ((Text.trimmed_eq_empty_iff _).mp nothing)
  · exact nomatch parsed

namespace FitUpload

variable {settings : UploadSettings} {arguments : List String} {fields : List (String × String)}
  (fit : FitUpload settings target arguments options)
  (parsed : NamedValue.parseAll NamedValue.parse arguments = .ok fields)

include fit parsed

/-- What the fields of an upload bring in. -/
theorem content_field (spool : Spool) {field : String × String} (member : field ∈ fields) :
    field.1 ≠ "" ∧ field.1 ≠ descriptorName ∧
      (UploadPart.text field.1 field.2).content settings spool =
        .done (.value field.1 (.str field.2)) := by
  obtain ⟨argument, present, read⟩ := exists_argument_of_parseAll parsed field member
  obtain ⟨plain, single, small⟩ := fit.fieldsFit argument present field.1 field.2 read
  have named := name_ne_empty_of_parse read
  exact ⟨named, plain, Intake.content_text named plain single small⟩

/-- The service takes the parts of a field upload without refusing one. -/
theorem takeAll_fields (spool : Spool) :
    Intake.empty.takeAll settings spool ((descriptorPart target options ::
        fields.map fun field => UploadPart.text field.1 field.2).map Arrival.part) =
      (fieldIntake target options fields, .done ()) := by
  have described := content_descriptorPart target spool fit.actionNamed fit.timeoutFits
    fit.descriptorFits
  have first : Intake.empty.take settings spool (descriptorPart target options) =
      .done (Intake.empty.add (.descriptor (descriptor target options))) := by
    rw [Intake.take_eq fun _ => rfl, described]
    rfl
  have others : List.Forall₂ (fun part content => part.name ≠ descriptorName ∧
        part.content settings spool = .done content)
      (fields.map fun field => UploadPart.text field.1 field.2)
      (fields.map fun field => PartContent.value field.1 (.str field.2)) := by
    rw [List.forall₂_map_left_iff, List.forall₂_map_right_iff, List.forall₂_same]
    intro field member
    exact (fit.content_field parsed spool member).2
  rw [List.map_cons, Intake.takeAll_cons_of_take first, Intake.takeAll_of_contents others,
    Intake.foldl_add_values]
  rfl

/-- A field upload asks the gateway for the invocation of its fields. -/
theorem invocationOfUpload_fields (spool : Spool) :
    (invocationOfUpload settings spool ((descriptorPart target options ::
        fields.map fun field => UploadPart.text field.1 field.2).map Arrival.part)).invocation =
      .done (uploaded target options fields) := by
  rw [invocationOfUpload, fit.takeAll_fields parsed spool]
  change Outcome.ofExcept (fieldIntake target options fields).invocation = _
  rw [invocation_fieldIntake target options fit.actionNamed]
  rfl

end FitUpload

variable (target options)

/-- The invocation of query arguments fails only where an argument does not parse. -/
theorem invocation_of_query (arguments : List String) :
    invocation target arguments [] [] options =
      (NamedValue.parseAll NamedValue.parse arguments).map (queried target options) := by
  unfold invocation parameters
  cases NamedValue.parseAll NamedValue.parse arguments with
  | error cause => rfl
  | ok fields => rfl

/-- An upload of fields alone is the descriptor and a text part for each argument. -/
theorem uploadParts_of_fields (files : Files) (arguments : List String) :
    uploadParts files target arguments [] [] options =
      (NamedValue.parseAll NamedValue.parse arguments).map fun fields =>
        descriptorPart target options :: fields.map fun field => .text field.1 field.2 := by
  unfold uploadParts
  cases NamedValue.parseAll NamedValue.parse arguments with
  | error cause => rfl
  | ok fields => exact congrArg Except.ok (List.append_nil _)

variable {target options}

section Reports

variable {workplace : Workplace} (settings : Settings) {definitions : Definitions}
  (found : workplace.definitions target.definitions = .ok definitions)

include found

/-- An exec command whose arguments parse runs its invocation at the gateway. -/
theorem runExec_of_invocation {query header bindings : List String} {invocation : Invocation}
    (asked : Command.invocation target query header bindings options = .ok invocation) :
    runExec workplace settings target query header bindings options =
      reportOf options (.ofExcept ((Gateway.ofSettings settings).execute
        (workplace.surroundings definitions) .empty invocation target.environmentId).1) := by
  unfold runExec
  rw [found, asked]
  rfl

/-- An upload command whose parts are made runs them at the gateway. -/
theorem runUpload_of_parts {fields files parameterMap : List String} {parts : List UploadPart}
    (made : uploadParts workplace.files target fields files parameterMap options = .ok parts) :
    runUpload workplace settings target fields files parameterMap options =
      reportOf options ((Gateway.ofSettings settings).executeUpload
        (workplace.surroundings definitions) .empty (parts.map Arrival.part) target.branch
        target.environmentId).1 := by
  unfold runUpload
  rw [found, made]
  rfl

end Reports

/-- Fields are answered as query parameters are by a store with the same order. -/
theorem runUpload_eq_runExec (workplace : Workplace) (settings : Settings)
    {arguments : List String} (fit : FitUpload settings.upload target arguments options) :
    runUpload workplace settings target arguments [] [] options =
      runExec workplace settings target arguments [] [] options := by
  have query := invocation_of_query target options arguments
  have parts := uploadParts_of_fields target options workplace.files arguments
  -- Both read the definitions before the arguments, so both end with the same error first.
  cases found : workplace.definitions target.definitions with
  | error cause =>
      unfold runUpload runExec
      rw [found]
      rfl
  | ok definitions =>
      cases parsed : NamedValue.parseAll NamedValue.parse arguments with
      | error cause =>
          rw [parsed] at query parts
          unfold runUpload runExec
          rw [found, query, parts]
          rfl
      | ok fields =>
          rw [parsed] at query parts
          have named : ∀ field ∈ fields, field.1 ≠ "" := fun field member =>
            (fit.content_field parsed workplace.spool member).1
          have asked := fit.invocationOfUpload_fields parsed workplace.spool
          have ran := Gateway.executeUploadWith_of_done (Gateway.ofSettings settings)
            (workplace.surroundings definitions) .empty _ target.branch target.environmentId
            Executor.runner asked
          have same := Gateway.execute_of_agree (Gateway.ofSettings settings)
            (workplace.surroundings definitions) .empty target.environmentId
            (agree_uploaded target options named)
          rw [runExec_of_invocation settings found query, runUpload_of_parts settings found parts,
            Gateway.executeUpload, ran, ← same]
          rfl

/-- An invocation whose key is decided is answered alike over the same records in any order. -/
theorem execute_fst_eq_of_decided (workplace : Workplace) (settings : Settings)
    {definitions others : Definitions} (invocation : Invocation) (environmentId : String)
    (same : definitions.SameRecords others)
    (decided : definitions.Decided (invocation.keyUnder settings environmentId)) :
    ((Gateway.ofSettings settings).execute (workplace.surroundings others) .empty invocation
        environmentId).1 =
      ((Gateway.ofSettings settings).execute (workplace.surroundings definitions) .empty invocation
        environmentId).1 := by
  have loaded (held : Definitions) :
      ((Gateway.ofSettings settings).resolve (workplace.surroundings held) .empty
        invocation.actionId invocation.branch environmentId invocation.viewMode).1 =
        (invocation.keyUnder settings environmentId).load held.reader :=
    Gateway.resolve_fst_after _ (workplace.surroundings held) [] nofun _ _ _ _
  rw [Gateway.execute_fst, Gateway.execute_fst, loaded, loaded, same.load_eq_of_decided decided]
  rfl

/-- The report of a command with query parameters does not depend on the order in which its store
holds the records, if the key of its target is decided. -/
theorem runExec_arranged (workplace : Workplace) (arrangement : Arrangement) (settings : Settings)
    (arguments : List String)
    (decided : ∀ manifest, workplace.manifest target.definitions = .ok manifest →
      (Definitions.ofManifest manifest).Decided (target.key settings)) :
    runExec (workplace.arranged arrangement) settings target arguments [] [] options =
      runExec workplace settings target arguments [] [] options := by
  have here := workplace.definitions_eq_map target.definitions
  have there := (workplace.arranged arrangement).definitions_eq_map target.definitions
  change _ = (workplace.manifest target.definitions).map _ at there
  have query := invocation_of_query target options arguments
  cases found : workplace.manifest target.definitions with
  | error cause =>
      rw [found] at here there
      unfold runExec
      rw [here, there]
      rfl
  | ok manifest =>
      rw [found] at here there
      cases parsed : NamedValue.parseAll NamedValue.parse arguments with
      | error cause =>
          rw [parsed] at query
          unfold runExec
          rw [here, there, query]
          rfl
      | ok fields =>
          rw [parsed] at query
          have alike (held : Arrangement) := execute_fst_eq_of_decided workplace settings
            (queried target options fields) target.environmentId
            (held.same (.ofManifest manifest)) (decided manifest found)
          rw [runExec_of_invocation settings here query, runExec_of_invocation settings there query]
          exact congrArg (fun answer => reportOf options (.ofExcept answer))
            ((alike arrangement).trans (alike workplace.arrangement).symm)

/-- **Executing an action with query parameters and uploading them as fields come to the same**:
the same error, or the same report of the same result. Each command has a store of its own, and the
two may hold the records of the file in different orders. Where the target leads to one of several
copies of one base on one branch, its order decides which copy is run, and both commands run the
same one in the same order; everywhere else they come to the same in any two orders. -/
theorem run_upload_eq_run_exec (workplace : Workplace) (settings : Settings)
    {arguments : List String} (fit : FitUpload settings.upload target arguments options) :
    (∀ arrangement,
      run (workplace.arranged arrangement) settings (.upload target arguments [] [] options) =
        run (workplace.arranged arrangement) settings (.exec target arguments [] [] options)) ∧
    ((∀ manifest, workplace.manifest target.definitions = .ok manifest →
        (Definitions.ofManifest manifest).Decided (target.key settings)) →
      ∀ first second,
        run (workplace.arranged first) settings (.upload target arguments [] [] options) =
          run (workplace.arranged second) settings (.exec target arguments [] [] options)) := by
  have alike (arrangement : Arrangement) :=
    runUpload_eq_runExec (workplace.arranged arrangement) settings fit
  refine ⟨alike, fun decided first second => (alike first).trans ?_⟩
  exact runExec_arranged (workplace.arranged second) first settings arguments decided

/-- An action that asks for a name, and its copy on a branch. -/
def shopManifest : Manifest where
  applications := [⟨"shop", "Shop", none, ["sale"]⟩]
  datasources := [⟨"store", "Store", "echo", [("production", ⟨.null, .null⟩)]⟩]
  actions := [
    ⟨"list", "list", "shop", none, "List", "echo", ⟨"store", .obj [], none⟩, none⟩,
    ⟨"list-sale", "list", "shop", some "sale", "List", "echo",
      ⟨"store", .obj [("q", .str "\x7b\x7bname\x7d\x7d")], none⟩, none⟩]

/-- A place with a file for that action in it. -/
def shopWorkplace : Workplace where
  files path :=
    if path = "shop.json" then .file (Bytes.ofText shopManifest.json.compact)
    else .absent .missing
  knownVariables := ⟨[], fun _ => none⟩
  occasion := ⟨default, id, "run"⟩
  spool := fun _ => .ok "spool"
  arrangement := .asWritten

/-- A target on the branch of a sale, its context left blank. -/
def shopTarget : CommandTarget := ⟨"shop.json", "list", some "sale", "", .edit⟩

/-- A name that is given twice, the second time with an equals sign in its value. -/
def shopArguments : List String := ["name=x", " name =y=z"]

/-- A lenient run that asks for no time of its own. -/
def shopOptions : RunOptions := ⟨.lenient, some 0, .pretty, none⟩

/-- Its fields fit the limits of the service. -/
theorem fitUpload_shop : FitUpload .standard shopTarget shopArguments shopOptions where
  actionNamed := by decide
  timeoutFits := by
    rintro timeoutMs ⟨⟩
    decide
  descriptorFits := by decide
  fieldsFit := by
    intro argument member name value parsed
    have first : NamedValue.parse "name=x" = .ok ("name", "x") := by rfl
    have second : NamedValue.parse " name =y=z" = .ok ("name", "y=z") := by rfl
    rcases List.mem_cons.mp member with rfl | later
    · rw [first] at parsed
      cases parsed
      exact ⟨by decide, by decide, by decide⟩
    · obtain rfl := List.mem_singleton.mp later
      rw [second] at parsed
      cases parsed
      exact ⟨by decide, by decide, by decide⟩

/-- The definitions of the shop parse. -/
theorem manifest_shop :
    shopWorkplace.manifest shopTarget.definitions = .ok shopManifest := by
  have there : shopWorkplace.files "shop.json" =
      .file (Bytes.ofText shopManifest.json.compact) := by
    simp only [shopWorkplace, ↓reduceIte]
  have readBack : Json.ofText? shopManifest.json.compact = some shopManifest.json :=
    Json.ofText?_compact (by decide +kernel) (by decide +kernel) (by decide +kernel)
  have decoded : shopWorkplace.knownVariables.decode Manifest.decoder shopManifest.json =
      .ok shopManifest := by
    decide +kernel
  exact Workplace.manifest_of_text there rfl
    (Manifest.parse_eq_ok_iff.mpr
      ⟨_, DocumentFormat.read_json readBack, decoded, by decide +kernel⟩)

/-- On the branch of the sale one copy stands, so every order finds it. -/
theorem decided_shop (manifest : Manifest)
    (read : shopWorkplace.manifest shopTarget.definitions = .ok manifest) :
    (Definitions.ofManifest manifest).Decided (shopTarget.key .standard) := by
  cases manifest_shop.symm.trans read
  exact Definitions.Regular.decided (by decide) _

/-- The order in which the last action comes first. -/
def newestFirst : Arrangement := ⟨Definitions.reversed, Definitions.sameRecords_reversed⟩

/-- The command gives a report. -/
theorem isSome_run_exec_shop :
    (run (shopWorkplace.arranged newestFirst) .standard
      (.exec shopTarget shopArguments [] [] shopOptions)).toOption.isSome = true := by
  have asked : invocation shopTarget shopArguments [] [] shopOptions =
      .ok (queried shopTarget shopOptions [("name", "x"), ("name", "y=z")]) := by
    rfl
  have found : (shopWorkplace.arranged newestFirst).definitions shopTarget.definitions =
      .ok (Definitions.ofManifest shopManifest).reversed := by
    have held := (shopWorkplace.arranged newestFirst).definitions_eq_map shopTarget.definitions
    change _ = (shopWorkplace.manifest shopTarget.definitions).map _ at held
    rw [manifest_shop] at held
    exact held
  have ran := runExec_of_invocation .standard found asked
  refine (congrArg (fun outcome => outcome.toOption.isSome) ran).trans ?_
  decide +kernel

/-- The copy on the branch is run, by stores that hold the two actions in opposite orders. -/
theorem run_upload_eq_run_exec_shop :
    FitUpload .standard shopTarget shopArguments shopOptions ∧
      (∀ manifest, shopWorkplace.manifest shopTarget.definitions = .ok manifest →
        (Definitions.ofManifest manifest).Decided (shopTarget.key .standard)) ∧
      run (shopWorkplace.arranged .asWritten) .standard
          (.upload shopTarget shopArguments [] [] shopOptions) =
        run (shopWorkplace.arranged newestFirst) .standard
          (.exec shopTarget shopArguments [] [] shopOptions) ∧
      (run (shopWorkplace.arranged newestFirst) .standard
        (.exec shopTarget shopArguments [] [] shopOptions)).toOption.isSome = true :=
  ⟨fitUpload_shop, decided_shop,
    (run_upload_eq_run_exec shopWorkplace .standard fitUpload_shop).2 decided_shop .asWritten
      newestFirst,
    isSome_run_exec_shop⟩

end Command

end ActionGateway
