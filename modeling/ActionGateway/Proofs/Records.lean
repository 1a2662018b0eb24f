import ActionGateway.Proofs.OrderedMaps
import ActionGateway.Resolution.Cache

/-!
# Writing records

A record of any kind can be written, and each kind of record has the invalidation that tells a
cache of its change. Definitions that were written record by record hold each record under its own
id, so what an id finds has that id. By its id a record is found in whatever order records are held.
-/

namespace ActionGateway

/-- A record of any kind. -/
inductive DefinitionRecord where
  | application (application : Application)
  | action (action : Action)
  | datasource (datasource : Datasource)
  deriving DecidableEq, Repr

/-- The invalidation that goes with the change of a record. -/
def DefinitionRecord.invalidation : DefinitionRecord → Invalidation
  | application record => .application record.id
  | action record => .action record.id
  | datasource record => .datasource record.id

namespace Definitions

/-- Write a record. -/
def put (definitions : Definitions) : DefinitionRecord → Definitions
  | .application record => definitions.putApplication record
  | .action record => definitions.putAction record
  | .datasource record => definitions.putDatasource record

/-- The definitions that result from writing records one after the other. -/
def ofRecords (records : List DefinitionRecord) : Definitions :=
  records.foldl put empty

variable (definitions : Definitions) (id : String)

/-- A written application is found under its id, the others as before. -/
theorem application?_putApplication (written : Application) :
    (definitions.putApplication written).application? id =
      if id = written.id then some written else definitions.application? id :=
  OrderedMap.get?_insert ..

/-- A written action is found under its id, the others as before. -/
theorem action?_putAction (written : Action) :
    (definitions.putAction written).action? id =
      if id = written.id then some written else definitions.action? id :=
  OrderedMap.get?_insert ..

/-- A written datasource is found under its id, the others as before. -/
theorem datasource?_putDatasource (written : Datasource) :
    (definitions.putDatasource written).datasource? id =
      if id = written.id then some written else definitions.datasource? id :=
  OrderedMap.get?_insert ..

/-- **Filed definitions.** Each record is held under its own id. -/
structure Filed (definitions : Definitions) : Prop where
  applications : definitions.applications.FiledBy Application.id
  actions : definitions.actions.FiledBy Action.id
  datasources : definitions.datasources.FiledBy Datasource.id

/-- Without definitions all of them are filed under their ids. -/
theorem filed_empty : empty.Filed :=
  ⟨OrderedMap.filedBy_empty _, OrderedMap.filedBy_empty _, OrderedMap.filedBy_empty _⟩

/-- Writing a record files it. -/
theorem Filed.put {definitions : Definitions} (filed : definitions.Filed)
    (record : DefinitionRecord) : (definitions.put record).Filed := by
  cases record with
  | application written =>
      exact ⟨filed.applications.insert written, filed.actions, filed.datasources⟩
  | action written =>
      exact ⟨filed.applications, filed.actions.insert written, filed.datasources⟩
  | datasource written =>
      exact ⟨filed.applications, filed.actions, filed.datasources.insert written⟩

/-- Definitions written record by record are filed. -/
theorem filed_ofRecords (records : List DefinitionRecord) : (ofRecords records).Filed :=
  List.foldlRecOn records put filed_empty fun _ filed record _ => filed.put record

namespace SameRecords

variable {first second : Definitions}

/-- An application is found by its id in every order. -/
theorem application? (same : first.SameRecords second) (id : String) :
    second.application? id = first.application? id :=
  (OrderedMap.get?_of_perm same.applications id).symm

/-- An action is found by its id in every order. -/
theorem action? (same : first.SameRecords second) (id : String) :
    second.action? id = first.action? id :=
  (OrderedMap.get?_of_perm same.actions id).symm

/-- A datasource is found by its id in every order. -/
theorem datasource? (same : first.SameRecords second) (id : String) :
    second.datasource? id = first.datasource? id :=
  (OrderedMap.get?_of_perm same.datasources id).symm

/-- Definitions are filed in every order if they are in one. -/
theorem filed (same : first.SameRecords second) (filed : first.Filed) : second.Filed where
  applications id _ found := filed.applications id _ ((same.application? id).symm.trans found)
  actions id _ found := filed.actions id _ ((same.action? id).symm.trans found)
  datasources id _ found := filed.datasources id _ ((same.datasource? id).symm.trans found)

end SameRecords

end Definitions

/-! ## A report

The definitions of a small application: one action, its copy on a branch, and one datasource. -/

namespace Report

/-- An application with a preview branch. -/
def application : Application := ⟨"sales", "Sales", some "main", ["main", "preview"]⟩

/-- A datasource for production. -/
def datasource : Datasource := ⟨"orders", "Orders", "sql", [("production", ⟨.null, .null⟩)]⟩

/-- An action on the default line. -/
def action : Action :=
  ⟨"report", "report", "sales", none, "Report", "sql", ⟨"orders", .null, none⟩, none⟩

/-- Its copy on the preview branch. -/
def preview : Action :=
  ⟨"report-preview", "report", "sales", some "preview", "Report", "sql", ⟨"orders", .null, none⟩,
    none⟩

/-- The records of both in the order in which they are written. -/
def records : List DefinitionRecord :=
  [.application application, .datasource datasource, .action action, .action preview]

/-- The draft of the report, without a branch. -/
def key : ContextKey := ⟨"report", none, "production", .edit⟩

/-- What a call without a branch is answered with. -/
def context : ResolvedContext :=
  ⟨action, action.draft, .edit, datasource, "production", ⟨.null, .null⟩⟩

/-- The draft of the copy. -/
def previewKey : ContextKey := { key with branch := some "preview" }

end Report

end ActionGateway
