import ActionGateway.Manifest
import ActionGateway.OrderedMap
import ActionGateway.StoreError

/-! # Stores of definitions

Applications, actions and datasources by their ids. Writing a record replaces the one of its id.
Readers may fail, so what reads definitions is given a `DefinitionReader` rather than a store.

A store holds its records in an order of its own, which need not be the one in which they were
written and which is another in another store. Where a look-up can come upon several records, that
order decides.
-/

namespace ActionGateway

/-- **Definitions** in memory. -/
structure Definitions where
  applications : OrderedMap Application
  actions : OrderedMap Action
  datasources : OrderedMap Datasource

namespace Definitions

/-- No definitions. -/
def empty : Definitions := ⟨.empty, .empty, .empty⟩

/-- Write an application. -/
def putApplication (definitions : Definitions) (application : Application) : Definitions :=
  { definitions with applications := definitions.applications.insert application.id application }

/-- Write an action. -/
def putAction (definitions : Definitions) (action : Action) : Definitions :=
  { definitions with actions := definitions.actions.insert action.id action }

/-- Write a datasource. -/
def putDatasource (definitions : Definitions) (datasource : Datasource) : Definitions :=
  { definitions with datasources := definitions.datasources.insert datasource.id datasource }

/-- Write all definitions of a manifest. -/
def putManifest (definitions : Definitions) (manifest : Manifest) : Definitions :=
  let definitions := manifest.applications.foldl putApplication definitions
  let definitions := manifest.datasources.foldl putDatasource definitions
  manifest.actions.foldl putAction definitions

/-- The definitions of a manifest. -/
def ofManifest (manifest : Manifest) : Definitions :=
  empty.putManifest manifest

/-- The application with an id. -/
def application? (definitions : Definitions) (id : String) : Option Application :=
  definitions.applications.get? id

/-- The action with an id, whether on the default line or on a branch. -/
def action? (definitions : Definitions) (id : String) : Option Action :=
  definitions.actions.get? id

/-- The copy of a base action that is on a branch. When there are several, it is the one that comes
first in the order in which they are held. -/
def copyOnBranch? (definitions : Definitions) (base branch : String) : Option Action :=
  (definitions.actions.entries.find? fun entry =>
    entry.2.baseId == base && entry.2.branchName == some branch).map Prod.snd

/-- The datasource with an id. -/
def datasource? (definitions : Definitions) (id : String) : Option Datasource :=
  definitions.datasources.get? id

/-- **The same records**, in any order. -/
structure SameRecords (first second : Definitions) : Prop where
  applications : first.applications.entries.Perm second.applications.entries
  actions : first.actions.entries.Perm second.actions.entries
  datasources : first.datasources.entries.Perm second.datasources.entries

theorem SameRecords.refl (definitions : Definitions) : definitions.SameRecords definitions :=
  ⟨.refl _, .refl _, .refl _⟩

end Definitions

/-- **Arrangement**: the order in which a store holds the records that are written to it. -/
structure Arrangement where
  arrange : Definitions → Definitions
  same : ∀ definitions : Definitions, definitions.SameRecords (arrange definitions)

/-- The order in which records were written. -/
def Arrangement.asWritten : Arrangement := ⟨id, Definitions.SameRecords.refl⟩

/-- **Reader of definitions.** Each way of reading may fail. -/
structure DefinitionReader where
  application : String → Except StoreError (Option Application)
  action : String → Except StoreError (Option Action)
  copyOnBranch : String → String → Except StoreError (Option Action)
  datasource : String → Except StoreError (Option Datasource)

/-- The reader of definitions in memory, which never fails. -/
def Definitions.reader (definitions : Definitions) : DefinitionReader where
  application id := .ok (definitions.application? id)
  action id := .ok (definitions.action? id)
  copyOnBranch base branch := .ok (definitions.copyOnBranch? base branch)
  datasource id := .ok (definitions.datasource? id)

end ActionGateway
