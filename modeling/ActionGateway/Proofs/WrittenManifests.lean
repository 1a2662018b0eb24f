import ActionGateway.Manifest
import ActionGateway.Proofs.WrittenRecords

/-!
# Written manifests are loaded

What is written for a manifest says the manifest: fields that are left out have the defaults that
they had, and a base id that equals the id is written all the same. Unless one of its strings holds
the start of a reference, loading resolves nothing, so the manifest comes back whatever the
environment is.
-/

namespace ActionGateway

open OrderedMap (latest?)
open Json.Decoder (Reads)

/-! ## Records -/

/-- An application is read back from its JSON. -/
theorem Application.reads_json (application : Application) :
    Reads Application.decoder application.json application := by
  intro room fits
  obtain ⟨read, fields, shown⟩ := Json.Decoder.exists_show_fields
    ["id", "name", "defaultBranch", "branches"] _ fits
  have id := shown.required "id" (Json.Decoder.reads_text application.id) (by decide) rfl
  have name := shown.required "name" (Json.Decoder.reads_text application.name) (by decide) rfl
  have defaultBranch := shown.optional "defaultBranch" none
    (Json.Decoder.reads_textOrNull application.defaultBranch) (by decide) rfl
  have branches := shown.optional "branches" []
    (Json.Decoder.reads_ofTexts application.branches) (by decide) rfl
  unfold Application.decoder
  rw [Application.json, fields]
  simp only [Option.bind_eq_bind, Option.bind_some, id, name, defaultBranch, branches]

namespace Storage

/-- Its parts are JSON values as there can be. -/
structure WellFormed (storage : Storage) : Prop where
  config : storage.config.WellFormed
  credentials : storage.credentials.WellFormed

/-- A storage is read back from its JSON. -/
theorem reads_json {storage : Storage} (sound : storage.WellFormed) :
    Reads Storage.decoder storage.json storage := by
  intro room fits
  obtain ⟨read, fields, shown⟩ :=
    Json.Decoder.exists_show_fields ["config", "credentials"] _ fits
  have config := shown.optional "config" .null (Json.Decoder.reads_value sound.config)
    (by decide) rfl
  have credentials := shown.optional "credentials" .null
    (Json.Decoder.reads_value sound.credentials) (by decide) rfl
  unfold Storage.decoder
  rw [Storage.json, fields]
  simp only [Option.bind_eq_bind, Option.bind_some, config, credentials]

end Storage

namespace Datasource

/-- Its storages stand in the order of their environments, and are well-formed. -/
structure WellFormed (datasource : Datasource) : Prop where
  ordered : Json.InOrder datasource.environments
  storages : ∀ entry ∈ datasource.environments, entry.2.WellFormed

/-- A datasource is read back from its JSON. -/
theorem reads_json {datasource : Datasource} (sound : datasource.WellFormed) :
    Reads Datasource.decoder datasource.json datasource := by
  intro room fits
  obtain ⟨read, fields, shown⟩ :=
    Json.Decoder.exists_show_fields ["id", "name", "plugin", "environments"] _ fits
  have id := shown.required "id" (Json.Decoder.reads_text datasource.id) (by decide) rfl
  have name := shown.required "name" (Json.Decoder.reads_text datasource.name) (by decide) rfl
  have plugin := shown.required "plugin" (Json.Decoder.reads_text datasource.plugin)
    (by decide) rfl
  have environments := shown.optional "environments" []
    (Json.Decoder.reads_sorted sound.ordered fun entry member =>
      Storage.reads_json (sound.storages entry member)) (by decide) rfl
  unfold Datasource.decoder
  rw [Datasource.json, fields]
  simp only [Option.bind_eq_bind, Option.bind_some, id, name, plugin, environments]

end Datasource

namespace ActionDefinition

/-- Its configuration is a JSON value as there can be, and its timeout fits 64 bits. -/
structure WellFormed (definition : ActionDefinition) : Prop where
  configuration : definition.configuration.WellFormed
  timeoutMs : ∀ timeoutMs, definition.timeoutMs = some timeoutMs → timeoutMs < Nat.pow 2 64

/-- The fields that are written. -/
def fields (definition : ActionDefinition) : List (String × Json) :=
  [("datasourceId", .str definition.datasourceId), ("configuration", definition.configuration)] ++
    (definition.timeoutMs.map fun ms => ("timeoutMs", Json.ofNat ms)).toList

/-- What a reader finds under the names of a definition. -/
theorem latest?_fields (definition : ActionDefinition) :
    latest? definition.fields "datasourceId" = some (.str definition.datasourceId) ∧
      latest? definition.fields "configuration" = some definition.configuration ∧
      latest? definition.fields "timeoutMs" = definition.timeoutMs.map Json.ofNat := by
  obtain ⟨datasourceId, configuration, timeoutMs⟩ := definition
  cases timeoutMs <;> exact ⟨rfl, rfl, rfl⟩

/-- A definition is read back from its JSON. -/
theorem reads_json {definition : ActionDefinition} (sound : definition.WellFormed) :
    Reads ActionDefinition.decoder definition.json definition := by
  intro room fits
  obtain ⟨atDatasource, atConfiguration, atTimeout⟩ := latest?_fields definition
  obtain ⟨read, fields, shown⟩ := Json.Decoder.exists_show_fields
    ["datasourceId", "configuration", "timeoutMs"] definition.fields fits
  have datasourceId := shown.required "datasourceId"
    (Json.Decoder.reads_text definition.datasourceId) (by decide) atDatasource
  have configuration := shown.optional "configuration" .null
    (Json.Decoder.reads_value sound.configuration) (by decide) atConfiguration
  have timeoutMs := shown.optional_nullable "timeoutMs" (fun ms given =>
    ⟨Json.Decoder.reads_unsigned (sound.timeoutMs ms given), nofun⟩) (by decide) atTimeout
  have written : definition.json = Json.object definition.fields := rfl
  unfold ActionDefinition.decoder
  rw [written, fields]
  simp only [Option.bind_eq_bind, Option.bind_some, datasourceId, configuration, timeoutMs]

end ActionDefinition

namespace Action

/-- Its definitions are well-formed, that of the published side too where there is one. -/
structure WellFormed (action : Action) : Prop where
  draft : action.draft.WellFormed
  published : ∀ definition, action.published = some definition → definition.WellFormed

/-- The fields that are written. -/
def fields (action : Action) : List (String × Json) :=
  [("id", .str action.id), ("baseId", .str action.baseId),
    ("applicationId", .str action.applicationId), ("name", .str action.name),
    ("plugin", .str action.plugin), ("unpublished", action.draft.json)] ++
    (action.branchName.map fun branch => ("branchName", Json.str branch)).toList ++
    (action.published.map fun definition => ("published", definition.json)).toList

/-- What a reader finds under the names of an action. -/
theorem latest?_fields (action : Action) :
    latest? action.fields "id" = some (.str action.id) ∧
      latest? action.fields "baseId" = some (.str action.baseId) ∧
      latest? action.fields "applicationId" = some (.str action.applicationId) ∧
      latest? action.fields "branchName" = action.branchName.map Json.str ∧
      latest? action.fields "name" = some (.str action.name) ∧
      latest? action.fields "plugin" = some (.str action.plugin) ∧
      latest? action.fields "unpublished" = some action.draft.json ∧
      latest? action.fields "published" = action.published.map ActionDefinition.json := by
  obtain ⟨id, baseId, applicationId, branchName, name, plugin, draft, published⟩ := action
  cases branchName <;> cases published <;> exact ⟨rfl, rfl, rfl, rfl, rfl, rfl, rfl, rfl⟩

/-- An action as definition files write it. Its base id is written even where it is the id. -/
theorem reads_json {action : Action} (sound : action.WellFormed) :
    Reads Action.entryDecoder action.json action := by
  intro room fits
  obtain ⟨atId, atBase, atApplication, atBranch, atName, atPlugin, atDraft, atPublished⟩ :=
    latest?_fields action
  obtain ⟨read, fields, shown⟩ :=
    Json.Decoder.exists_show_fields fieldNames action.fields fits
  have id := shown.required "id" (Json.Decoder.reads_text action.id) (by decide) atId
  have baseId := shown.optional "baseId" none
    ((Json.Decoder.reads_text action.baseId).nullable nofun) (by decide) atBase
  have applicationId := shown.required "applicationId"
    (Json.Decoder.reads_text action.applicationId) (by decide) atApplication
  have branchName := shown.optional_nullable "branchName" (fun branch _ =>
    ⟨Json.Decoder.reads_text branch, nofun⟩) (by decide) atBranch
  have name := shown.required "name" (Json.Decoder.reads_text action.name) (by decide) atName
  have plugin := shown.required "plugin" (Json.Decoder.reads_text action.plugin) (by decide)
    atPlugin
  have draft := shown.required "unpublished" (ActionDefinition.reads_json sound.draft) (by decide)
    atDraft
  have published := shown.optional_nullable "published" (fun definition given =>
    ⟨ActionDefinition.reads_json (sound.published definition given), nofun⟩) (by decide)
    atPublished
  have written : action.json = Json.object action.fields := rfl
  unfold Action.entryDecoder Action.ofFields
  rw [written, fields]
  simp only [Option.bind_eq_bind, Option.bind_some, id, baseId, applicationId, branchName, name,
    plugin, draft, published, Option.map_some, Option.getD_some]

end Action

namespace Manifest

/-- Its datasources and actions are well-formed. -/
structure WellFormed (manifest : Manifest) : Prop where
  datasources : ∀ datasource ∈ manifest.datasources, datasource.WellFormed
  actions : ∀ action ∈ manifest.actions, action.WellFormed

/-- A manifest is read back from its JSON. -/
theorem reads_json {manifest : Manifest} (sound : manifest.WellFormed) :
    Reads Manifest.decoder manifest.json manifest := by
  intro room fits
  obtain ⟨read, fields, shown⟩ := Json.Decoder.exists_show_fields
    ["applications", "datasources", "actions"] _ fits
  have applications := shown.optional "applications" []
    (Json.Decoder.reads_list fun application (_ : application ∈ manifest.applications) =>
      application.reads_json) (by decide) rfl
  have datasources := shown.optional "datasources" []
    (Json.Decoder.reads_list fun datasource member =>
      Datasource.reads_json (sound.datasources datasource member)) (by decide) rfl
  have actions := shown.optional "actions" []
    (Json.Decoder.reads_list fun action member =>
      Action.reads_json (sound.actions action member)) (by decide) rfl
  unfold Manifest.decoder
  rw [Manifest.json, fields]
  simp only [Option.bind_eq_bind, Option.bind_some, applications, datasources, actions]

end Manifest

/-! ## Texts without references -/

namespace Variables

/-- A text in which no reference begins is one literal. -/
theorem cutFrom_of_unstarted {text : List Char} (unstarted : ¬ ['$', '\x7b'] <:+: text)
    (literal : List Char) :
    (Text.cutFrom VariableReference.recognise literal 0 text).markers = [] := by
  induction text generalizing literal with
  | nil => rfl
  | cons c rest ih =>
      have later : ¬ ['$', '\x7b'] <:+: rest := fun inside => unstarted (List.infix_cons inside)
      have unmarked : VariableReference.recognise (c :: rest) = .literal := by
        by_cases dollar : c = '$'
        · refine VariableReference.recognise_of_head_ne c fun brace => unstarted ?_
          obtain ⟨after, rfl⟩ := List.head?_eq_some_iff.mp brace
          exact ⟨[], after, by rw [dollar]; rfl⟩
        · exact VariableReference.recognise_of_ne rest dollar
      rw [Text.cutFrom_literal literal unmarked]
      exact ih later _

/-- A text in which no reference starts stays as it is, whatever variables there are. -/
theorem resolveText_of_unstarted (known : Variables) {text : String}
    (unstarted : ¬ ['$', '\x7b'] <:+: text.toList) : known.resolveText text = .ok (.str text) :=
  resolveText_of_unreferenced (cutFrom_of_unstarted unstarted [])

end Variables

namespace Manifest

/-- **Loading undoes writing.** A manifest without fault, none of whose strings holds the start of a
reference, is what its own text is loaded as, in every environment, as long as the text is read as
the JSON that was written. -/
theorem parse_compact_json (known : Variables) {manifest : Manifest} (sound : manifest.WellFormed)
    (faultless : manifest.fault? = none)
    (unstarted : ∀ text ∈ manifest.json.texts, ¬ ['$', '\x7b'] <:+: text.toList)
    (readBack : Json.ofText? manifest.json.compact = some manifest.json) :
    parse known manifest.json.compact .json = .ok manifest := by
  have resolved : known.resolve manifest.json = .ok manifest.json :=
    Variables.resolve_of_texts manifest.json fun text member =>
      known.resolveText_of_unstarted (unstarted text member)
  have decoded : known.decode decoder manifest.json = .ok manifest := by
    exact Variables.decode_eq_ok_iff.mpr ⟨_, resolved, reads_json sound _ le_rfl⟩
  exact parse_eq_ok_iff.mpr ⟨_, DocumentFormat.read_json readBack, decoded, faultless⟩

/-- A manifest in which every field that may be left out is left out somewhere and given elsewhere,
with the start of a reference in the name of a field. -/
def branchedManifest : Manifest where
  applications := [⟨"shop", "Shop", some "main", ["dev"]⟩, ⟨"blog", "Blog", none, []⟩]
  datasources := [⟨"store", "Store", "echo", [
    ("production", ⟨.null, .null⟩),
    ("staging", ⟨.obj [("host", .str "here"), ("ports", .arr [.ofInt 80, .null])], .str "s"⟩)]⟩]
  actions := [
    ⟨"list", "list", "shop", none, "List", "echo", ⟨"store", .null, none⟩,
      some ⟨"store", .obj [("$\x7bfree\x7d", .str "$a")], some 500⟩⟩,
    ⟨"list-dev", "list", "shop", some "dev", "List", "echo", ⟨"store", .bool true, none⟩, none⟩]

/-- The manifest of a branched action can be written. -/
theorem wellFormed_branchedManifest : branchedManifest.WellFormed where
  datasources := by
    refine List.forall_mem_singleton.mpr ⟨?_, List.forall_mem_cons.mpr ⟨?_, ?_⟩⟩
    · unfold Json.InOrder
      decide
    · exact ⟨trivial, trivial⟩
    · refine List.forall_mem_singleton.mpr ⟨⟨by decide, trivial, ?_, trivial⟩, trivial⟩
      exact ⟨trivial, trivial, trivial⟩
  actions := by
    refine List.forall_mem_cons.mpr ⟨⟨⟨trivial, nofun⟩, ?_⟩, List.forall_mem_singleton.mpr ?_⟩
    · rintro definition ⟨⟩
      refine ⟨⟨by decide, trivial, trivial⟩, ?_⟩
      rintro timeoutMs ⟨⟩
      decide
    · exact ⟨⟨trivial, nofun⟩, nofun⟩

theorem fault?_branchedManifest : branchedManifest.fault? = none := by
  decide +kernel

theorem unstarted_branchedManifest :
    ∀ text ∈ branchedManifest.json.texts, ¬ ['$', '\x7b'] <:+: text.toList := by
  decide +kernel

theorem readBack_branchedManifest :
    Json.ofText? branchedManifest.json.compact = some branchedManifest.json :=
  Json.ofText?_compact (by decide +kernel) (by decide +kernel) (by decide +kernel)

theorem parse_compact_json_branched :
    branchedManifest.WellFormed ∧ branchedManifest.fault? = none ∧
      (∀ text ∈ branchedManifest.json.texts, ¬ ['$', '\x7b'] <:+: text.toList) ∧
      Json.ofText? branchedManifest.json.compact = some branchedManifest.json ∧
      parse ⟨["APP_"], fun _ => some "1"⟩ branchedManifest.json.compact .json =
        .ok branchedManifest :=
  ⟨wellFormed_branchedManifest, fault?_branchedManifest, unstarted_branchedManifest,
    readBack_branchedManifest,
    parse_compact_json ⟨["APP_"], fun _ => some "1"⟩ wellFormed_branchedManifest
      fault?_branchedManifest unstarted_branchedManifest readBack_branchedManifest⟩

end Manifest

end ActionGateway
