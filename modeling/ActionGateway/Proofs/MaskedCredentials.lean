import ActionGateway.Proofs.Loading
import ActionGateway.Proofs.OrderedMaps
import ActionGateway.Proofs.RecordOrders
import ActionGateway.Proofs.SensitiveFields
import Mathlib.Data.List.Forall2

/-!
# Masked credentials

The mask of a definition has its credentials redacted and is otherwise the same. Which version of an
action is selected does not depend on datasources. So loading a context from masked definitions
gives the mask of what loading it from the definitions themselves gives. Two sets of definitions
that differ in nothing but secrets have one mask.
-/

namespace ActionGateway

namespace Json

/-! ## Redacting -/

mutual

/-- Nothing is left to redact after redacting once. -/
theorem redacted_redacted (value : Json) : value.redacted.redacted = value.redacted := by
  cases value with
  | arr items => rw [redacted, redacted, redactedItems_redactedItems items]
  | obj fields => rw [redacted, redacted, redactedFields_redactedFields fields]
  | null | bool _ | num _ | str _ => rfl

/-- Redacting items twice is redacting them once. -/
theorem redactedItems_redactedItems (items : List Json) :
    redactedItems (redactedItems items) = redactedItems items := by
  cases items with
  | nil => rfl
  | cons item rest =>
      rw [redactedItems, redactedItems, redacted_redacted item, redactedItems_redactedItems rest]

theorem redactedFields_redactedFields (fields : List (String × Json)) :
    redactedFields (redactedFields fields) = redactedFields fields := by
  cases fields with
  | nil => rfl
  | cons field rest =>
      rw [redactedFields, redactedFields, redacted_redacted field.2,
        redactedFields_redactedFields rest]

end

mutual

/-- Two values differ only in what can be a secret: they have the same fields, arrays of the same
lengths, and null in the same places. -/
inductive DifferInSecrets : Json → Json → Prop where
  | null : DifferInSecrets .null .null
  | secret {first second : Json} :
      first.canBeSecret = true → second.canBeSecret = true → DifferInSecrets first second
  | items {first second : List Json} :
      DifferInSecretItems first second → DifferInSecrets (.arr first) (.arr second)
  | fields {first second : List (String × Json)} :
      DifferInSecretFields first second → DifferInSecrets (.obj first) (.obj second)

/-- Items that differ in nothing but secrets. -/
inductive DifferInSecretItems : List Json → List Json → Prop where
  | nil : DifferInSecretItems [] []
  | cons {first second : Json} {rest others : List Json} :
      DifferInSecrets first second → DifferInSecretItems rest others →
      DifferInSecretItems (first :: rest) (second :: others)

/-- Fields of the same names that differ in nothing but secrets. -/
inductive DifferInSecretFields : List (String × Json) → List (String × Json) → Prop where
  | nil : DifferInSecretFields [] []
  | cons {name : String} {first second : Json} {rest others : List (String × Json)} :
      DifferInSecrets first second → DifferInSecretFields rest others →
      DifferInSecretFields ((name, first) :: rest) ((name, second) :: others)

end

/-- What can be a secret is redacted to the mask. -/
theorem redacted_of_canBeSecret {value : Json} (secret : value.canBeSecret = true) :
    value.redacted = Redaction.mask := by
  cases value with
  | null | arr _ | obj _ => exact nomatch secret
  | bool _ | num _ | str _ => rfl

mutual

/-- **Redacting hides secrets** wherever they stand. -/
theorem DifferInSecrets.redacted_eq {first second : Json} :
    DifferInSecrets first second → first.redacted = second.redacted
  | .null => rfl
  | .secret secret other => by rw [redacted_of_canBeSecret secret, redacted_of_canBeSecret other]
  | .items alike => by rw [redacted, redacted, alike.redactedItems_eq]
  | .fields alike => by rw [redacted, redacted, alike.redactedFields_eq]

/-- Such items are the same once redacted. -/
theorem DifferInSecretItems.redactedItems_eq {first second : List Json} :
    DifferInSecretItems first second → redactedItems first = redactedItems second
  | .nil => rfl
  | .cons alike others => by
      rw [redactedItems, redactedItems, alike.redacted_eq, others.redactedItems_eq]

theorem DifferInSecretFields.redactedFields_eq {first second : List (String × Json)} :
    DifferInSecretFields first second → redactedFields first = redactedFields second
  | .nil => rfl
  | .cons alike others => by
      rw [redactedFields, redactedFields, alike.redacted_eq, others.redactedFields_eq]

end

end Json

/-! ## Masks -/

/-- The storage with its credentials redacted. -/
def Storage.masked (storage : Storage) : Storage :=
  { storage with credentials := storage.credentials.redacted }

/-- The datasource with the credentials of every environment redacted. -/
def Datasource.masked (datasource : Datasource) : Datasource :=
  { datasource with
    environments := datasource.environments.map fun entry => (entry.1, entry.2.masked) }

/-- The reader that shows datasources only masked. -/
def DefinitionReader.masked (reader : DefinitionReader) : DefinitionReader :=
  { reader with
    datasource := fun id => (reader.datasource id).map (Option.map Datasource.masked) }

/-- The context with the credentials of its datasource redacted. -/
def ResolvedContext.masked (context : ResolvedContext) : ResolvedContext :=
  { context with
    datasource := context.datasource.masked
    storage := context.storage.masked }

/-- The datasources differ in nothing but secrets in their credentials. -/
structure Datasource.DifferInCredentials (first second : Datasource) : Prop where
  id : first.id = second.id
  name : first.name = second.name
  plugin : first.plugin = second.plugin
  environments : List.Forall₂
    (fun entry other => entry.1 = other.1 ∧ entry.2.config = other.2.config ∧
      Json.DifferInSecrets entry.2.credentials other.2.credentials)
    first.environments second.environments

/-- **Definitions that differ in nothing but secrets** in the credentials of their datasources. -/
structure Definitions.DifferInCredentials (first second : Definitions) : Prop where
  applications : first.applications = second.applications
  actions : first.actions = second.actions
  datasources : List.Forall₂
    (fun entry other => entry.1 = other.1 ∧ entry.2.DifferInCredentials other.2)
    first.datasources.entries second.datasources.entries

/-- Entries of the same keys, whose values a change maps alike, are changed alike. -/
theorem map_values_eq_of_forall₂ {κ α β : Type} {related : α → α → Prop} (change : α → β)
    (same : ∀ first second, related first second → change first = change second)
    {entries others : List (κ × α)}
    (alike : List.Forall₂ (fun entry other => entry.1 = other.1 ∧ related entry.2 other.2)
      entries others) :
    (entries.map fun entry => (entry.1, change entry.2)) =
      others.map fun entry => (entry.1, change entry.2) := by
  induction alike with
  | nil => rfl
  | cons own _ ih =>
      obtain ⟨key, value⟩ := own
      rw [List.map_cons, List.map_cons, ih, key, same _ _ value]

/-- Datasources that differ in their credentials are the same once masked. -/
theorem Datasource.DifferInCredentials.masked_eq {first second : Datasource}
    (alike : first.DifferInCredentials second) : first.masked = second.masked := by
  have storages (storage other : Storage)
      (same : storage.config = other.config ∧
        Json.DifferInSecrets storage.credentials other.credentials) :
      storage.masked = other.masked := by
    rw [Storage.masked, Storage.masked, same.1, same.2.redacted_eq]
  have environments := map_values_eq_of_forall₂ Storage.masked storages alike.environments
  unfold masked
  rw [environments, alike.id, alike.name, alike.plugin]

/-- **Definitions that differ in nothing but secrets have one mask.** -/
theorem Definitions.DifferInCredentials.masked_reader_eq {first second : Definitions}
    (alike : first.DifferInCredentials second) : first.reader.masked = second.reader.masked := by
  have entries := map_values_eq_of_forall₂ Datasource.masked
    (fun _ _ same => Datasource.DifferInCredentials.masked_eq same) alike.datasources
  have datasource (id : String) :
      (first.datasource? id).map Datasource.masked =
        (second.datasource? id).map Datasource.masked := by
    unfold datasource? OrderedMap.get?
    rw [← lookup_map_values, ← lookup_map_values, entries]
  unfold DefinitionReader.masked reader application? action? copyOnBranch?
  simp only [alike.applications, alike.actions, Except.map, datasource]

/-- What is asked for does not depend on secrets, so a key is decided in both or in neither. -/
theorem Definitions.DifferInCredentials.decided {first second : Definitions} {key : ContextKey}
    (alike : first.DifferInCredentials second) (decided : first.Decided key) :
    second.Decided key := by
  intro requested application branch asks
  have sameActions : second.allActions = first.allActions := by
    rw [allActions, allActions, alike.actions]
  rw [sameActions]
  refine decided requested application branch ⟨⟨?_, asks.named, ?_, asks.other⟩, asks.elsewhere,
    asks.listed⟩
  · rw [action?, alike.actions]
    exact asks.asked
  · rw [application?, alike.applications]
    exact asks.owner

/-- For every order of the one there is an order of the other in which they have one mask. -/
theorem Definitions.DifferInCredentials.exists_order {definitions others first : Definitions}
    (alike : definitions.DifferInCredentials others) (same : definitions.SameRecords first) :
    ∃ second, others.SameRecords second ∧ first.reader.masked = second.reader.masked := by
  refine ⟨⟨first.applications, first.actions, others.datasources⟩, ⟨?_, ?_, .refl _⟩, ?_⟩
  · exact alike.applications ▸ same.applications
  · exact alike.actions ▸ same.actions
  · have masked := congrArg DefinitionReader.datasource alike.masked_reader_eq
    unfold DefinitionReader.masked reader at masked ⊢
    simp only [same.datasource?]
    exact congrArg _ masked

/-! ## Loading -/

namespace ContextKey

variable (reader : DefinitionReader)

/-- No datasource is looked at when a version is selected. -/
theorem run_onBranch_masked (requested : Action) (branch : String) :
    (onBranch requested branch).run reader.masked = (onBranch requested branch).run reader := by
  unfold onBranch
  by_cases same : requested.branchName = some branch
  · simp only [same, ↓reduceIte, Reading.run]
  simp only [same, ↓reduceIte, Reading.run, DefinitionReader.masked]
  cases reader.application requested.applicationId with
  | error cause => rfl
  | ok found =>
      cases found with
      | none => rfl
      | some application =>
          by_cases main : application.isDefaultBranch branch = true
          · by_cases line : requested.isDefaultLine = true
            · simp only [main, line, ↓reduceIte, Reading.run]
            · simp only [main, line, ↓reduceIte, Reading.run, Bool.false_eq_true]
              cases reader.action requested.baseId with
              | error cause => rfl
              | ok base => cases base <;> rfl
          · by_cases listed : application.hasBranch branch = true
            · simp only [main, listed, ↓reduceIte, Reading.run, Bool.false_eq_true]
              cases reader.copyOnBranch requested.baseId branch with
              | error cause => rfl
              | ok copy => cases copy <;> rfl
            · simp only [main, listed, ↓reduceIte, Reading.run, Bool.false_eq_true]

/-- Which action a key selects does not depend on credentials. -/
theorem run_selectAction_masked (key : ContextKey) :
    key.selectAction.run reader.masked = key.selectAction.run reader := by
  unfold selectAction
  simp only [Reading.run]
  have same : reader.masked.action = reader.action := rfl
  rw [same]
  cases reader.action key.actionId with
  | error cause => rfl
  | ok found =>
      cases found with
      | none => rfl
      | some requested =>
          cases key.branch with
          | none => rfl
          | some branch => exact run_onBranch_masked reader requested branch

/-- The storage of an environment is masked with its datasource. -/
theorem storage?_masked (datasource : Datasource) (environmentId : String) :
    datasource.masked.storage? environmentId =
      (datasource.storage? environmentId).map Storage.masked :=
  lookup_map_values Storage.masked datasource.environments environmentId

/-- The context read from masked definitions is the masked context. -/
theorem run_contextOf_masked (key : ContextKey) (action : Action) :
    (key.contextOf action).run reader.masked =
      ((key.contextOf action).run reader).map ResolvedContext.masked := by
  unfold contextOf
  cases action.definition? key.viewMode with
  | none => rfl
  | some definition =>
      have looked : reader.masked.datasource definition.datasourceId =
          (reader.datasource definition.datasourceId).map (Option.map Datasource.masked) := rfl
      simp only [Reading.run, looked]
      cases reader.datasource definition.datasourceId with
      | error cause => rfl
      | ok found =>
          cases found with
          | none => rfl
          | some datasource =>
              simp only [Except.map, Option.map_some, storage?_masked]
              cases datasource.storage? key.environmentId with
              | none => rfl
              | some storage => rfl

/-- **A context is loaded from masked definitions as its mask.** -/
theorem load_masked (key : ContextKey) :
    key.load reader.masked = (key.load reader).map ResolvedContext.masked := by
  rw [load_eq_bind, load_eq_bind, run_selectAction_masked]
  cases key.selectAction.run reader with
  | error reason => rfl
  | ok action => exact run_contextOf_masked reader key action

end ContextKey

end ActionGateway
