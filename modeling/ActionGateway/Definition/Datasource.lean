import ActionGateway.Json.Decoder

/-! # Datasources -/

namespace ActionGateway

/-- The connection of a datasource in one environment. -/
structure Storage where
  config : Json
  credentials : Json
  deriving DecidableEq, Repr, Inhabited

namespace Storage

/-- A storage as JSON. -/
def json (storage : Storage) : Json :=
  Json.object [("config", storage.config), ("credentials", storage.credentials)]

/-- A storage from JSON; both parts are null unless given. -/
def decoder : Json.Decoder Storage := fun room raw => do
  let fields ← Json.Decoder.fields ["config", "credentials"] room raw
  let config ← fields.optional "config" .value .null
  let credentials ← fields.optional "credentials" .value .null
  some ⟨config, credentials⟩

end Storage

/-- **Datasource.** Its storages stand in the order of their environments. -/
structure Datasource where
  id : String
  name : String
  plugin : String
  environments : List (String × Storage)
  deriving DecidableEq, Repr, Inhabited

namespace Datasource

/-- The storage for an environment. -/
def storage? (datasource : Datasource) (environment : String) : Option Storage :=
  datasource.environments.lookup environment

/-- A datasource as JSON. -/
def json (datasource : Datasource) : Json :=
  Json.object [
    ("id", .str datasource.id),
    ("name", .str datasource.name),
    ("plugin", .str datasource.plugin),
    ("environments", Json.object (datasource.environments.map fun entry =>
      (entry.1, entry.2.json)))]

/-- A datasource from JSON; without storages unless given. -/
def decoder : Json.Decoder Datasource := fun room raw => do
  let fields ← Json.Decoder.fields ["id", "name", "plugin", "environments"] room raw
  let id ← fields.required "id" .text
  let name ← fields.required "name" .text
  let plugin ← fields.required "plugin" .text
  let environments ← fields.optional "environments" (.sorted Storage.decoder) []
  some ⟨id, name, plugin, environments⟩

end Datasource

end ActionGateway
