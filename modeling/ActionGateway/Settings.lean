import ActionGateway.Deadline
import ActionGateway.Document.Format
import ActionGateway.Json.Decoder
import ActionGateway.Text.Blank

/-! # Settings

Settings of the gateway. Each has a default, so an empty document is a complete one.
-/

namespace ActionGateway

/-- How resolved contexts are kept. -/
structure CacheSettings where
  /-- How long a context may be served without looking at the stores, in seconds. -/
  ttlSeconds : Nat
  maxEntries : Nat
  deriving DecidableEq, Repr, Inhabited

/-- Limits of uploads. -/
structure UploadSettings where
  maxAttachmentBytes : Nat
  /-- The limit of a single part that is no file. -/
  maxFieldBytes : Nat
  /-- Where files are kept, when not at the usual place. -/
  spoolDirectory : Option String
  deriving DecidableEq, Repr, Inhabited

/-- **Settings.** -/
structure Settings where
  execution : TimeoutPolicy
  cache : CacheSettings
  upload : UploadSettings
  /-- The environment that a blank name stands for. -/
  defaultEnvironment : String
  deriving DecidableEq, Repr, Inhabited

/-- How contexts are kept unless configured otherwise. -/
def CacheSettings.standard : CacheSettings := ⟨30, 1024⟩

/-- The time that a context is served, in milliseconds. -/
def CacheSettings.ttlMs (settings : CacheSettings) : Nat := settings.ttlSeconds * 1000

/-- Limits unless configured otherwise. -/
def UploadSettings.standard : UploadSettings := ⟨10 * 1024 * 1024, 1024 * 1024, none⟩

/-- A timeout policy as JSON. -/
def TimeoutPolicy.json (policy : TimeoutPolicy) : Json :=
  Json.object [
    ("default_timeout_ms", Json.ofNat policy.defaultMs),
    ("max_timeout_ms", Json.ofNat policy.maxMs)]

/-- A timeout policy from JSON. -/
def TimeoutPolicy.decoder : Json.Decoder TimeoutPolicy := fun room raw => do
  let fields ← Json.Decoder.fields ["default_timeout_ms", "max_timeout_ms"] room raw
  let defaultMs ← fields.optional "default_timeout_ms" (.unsigned 64) standard.defaultMs
  let maxMs ← fields.optional "max_timeout_ms" (.unsigned 64) standard.maxMs
  some ⟨defaultMs, maxMs⟩

/-- Cache settings as JSON. -/
def CacheSettings.json (settings : CacheSettings) : Json :=
  Json.object [
    ("ttl_secs", Json.ofNat settings.ttlSeconds),
    ("max_entries", Json.ofNat settings.maxEntries)]

/-- Cache settings from JSON. -/
def CacheSettings.decoder : Json.Decoder CacheSettings := fun room raw => do
  let fields ← Json.Decoder.fields ["ttl_secs", "max_entries"] room raw
  let ttlSeconds ← fields.optional "ttl_secs" (.unsigned 64) standard.ttlSeconds
  let maxEntries ← fields.optional "max_entries" (.unsigned 64) standard.maxEntries
  some ⟨ttlSeconds, maxEntries⟩

/-- Upload settings as JSON. -/
def UploadSettings.json (settings : UploadSettings) : Json :=
  Json.object [
    ("max_attachment_bytes", Json.ofNat settings.maxAttachmentBytes),
    ("max_field_bytes", Json.ofNat settings.maxFieldBytes),
    ("spool_dir", Json.textOrNull settings.spoolDirectory)]

/-- Upload settings from JSON. -/
def UploadSettings.decoder : Json.Decoder UploadSettings := fun room raw => do
  let fields ← Json.Decoder.fields ["max_attachment_bytes", "max_field_bytes", "spool_dir"] room raw
  let maxAttachmentBytes ←
    fields.optional "max_attachment_bytes" (.unsigned 64) standard.maxAttachmentBytes
  let maxFieldBytes ← fields.optional "max_field_bytes" (.unsigned 64) standard.maxFieldBytes
  let spoolDirectory ← fields.optional "spool_dir" (.nullable .text) none
  some ⟨maxAttachmentBytes, maxFieldBytes, spoolDirectory⟩

namespace Settings

/-- The settings unless configured otherwise. -/
def standard : Settings := ⟨.standard, .standard, .standard, "production"⟩

/-- Settings as JSON. -/
def json (settings : Settings) : Json :=
  Json.object [
    ("execution", settings.execution.json),
    ("cache", settings.cache.json),
    ("upload", settings.upload.json),
    ("default_environment", .str settings.defaultEnvironment)]

/-- Settings from JSON. -/
def decoder : Json.Decoder Settings := fun room raw => do
  let fields ←
    Json.Decoder.fields ["execution", "cache", "upload", "default_environment"] room raw
  let execution ← fields.optional "execution" TimeoutPolicy.decoder .standard
  let cache ← fields.optional "cache" CacheSettings.decoder .standard
  let upload ← fields.optional "upload" UploadSettings.decoder .standard
  let defaultEnvironment ←
    fields.optional "default_environment" .text standard.defaultEnvironment
  some ⟨execution, cache, upload, defaultEnvironment⟩

/-- The first fault of settings. -/
def fault? (settings : Settings) : Option SettingsFault :=
  if settings.execution.defaultMs = 0 then some .noDefaultTimeout
  else if settings.execution.maxMs < settings.execution.defaultMs then some .defaultOverMaximum
  else if settings.cache.maxEntries = 0 then some .noCacheEntries
  else if Text.isBlankText settings.defaultEnvironment then some .blankEnvironment
  else none

/-- The value of a document of settings, where nothing and null stand for an empty one. -/
def document (content : String) (format : DocumentFormat) : Except LoadError Json :=
  if Text.isBlankText content then .ok (.obj [])
  else (format.read content).map fun value => if value = .null then .obj [] else value

/-- **Settings of a document.** -/
def parse (known : Variables) (content : String) (format : DocumentFormat) :
    Except LoadError Settings := do
  let settings ← known.decode decoder (← document content format)
  match settings.fault? with
  | some fault => .error (.settings fault)
  | none => .ok settings

/-- The settings of a file. -/
def load (known : Variables) (path : String) (content : Except FileError String) :
    Except LoadError Settings :=
  loadFile (parse known) path content

end Settings

end ActionGateway
