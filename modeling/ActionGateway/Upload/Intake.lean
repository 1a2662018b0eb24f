import ActionGateway.Json.Decoder
import ActionGateway.Settings
import ActionGateway.Upload.ContentKind
import ActionGateway.Upload.Descriptor

/-! # Intake of uploads

The parts of an upload are taken in as they arrive: the descriptor, the map from bindings to parts,
files, which are kept elsewhere, and values. In the end the values become bindings, each under the
name of its part or under the names that the map gives for it.
-/

namespace ActionGateway

/-- **Spool**: where the content of a file is kept, given the directory that is configured. It gives
the path of a new file, or the error met and the path where it was. -/
abbrev Spool := Option String → Except (FileError × String) String

/-- **Intake**: what has arrived of an upload. -/
structure Intake where
  descriptor : Option Descriptor
  /-- The parts that carry the values of bindings, by binding. -/
  parameterMap : OrderedMap String
  /-- The values of parts, by part. -/
  values : Bindings
  attachments : List Attachment
  /-- The hints that were told so far, in order. -/
  told : List Hint

namespace Intake

/-- Nothing has arrived. -/
def empty : Intake := ⟨none, .empty, .empty, [], []⟩

/-! ## One part -/

/-- The content of a part that is not kept as a file. -/
def readField (settings : UploadSettings) (part : UploadPart) : Outcome Bytes :=
  readBody settings.maxFieldBytes
    (.malformed (.fieldTooLarge part.name settings.maxFieldBytes)) 0 part.body

/-- The content of a part as typed JSON. -/
def readJson {α : Type} (settings : UploadSettings) (decoder : Json.Decoder α)
    (part : UploadPart) : Outcome α := do
  let content ← readField settings part
  .ofOption (decoder.ofBytes? content) (.malformed (.notJson part.name))

/-- The value of a part, by the kind of its content. -/
def readValue (settings : UploadSettings) (part : UploadPart) : Outcome Json :=
  match part.kind.unsupportedCharset? with
  | some charset => .rejected (.malformed (.unsupportedCharset part.name charset))
  | none => do
    let content ← readField settings part
    part.kind.value part.name content

/-- Keep a part as a file. The place for it is found before its content is read. -/
def readAttachment (settings : UploadSettings) (spool : Spool) (part : UploadPart) :
    Outcome Attachment :=
  match spool settings.spoolDirectory with
  | .error (cause, path) => .rejected (.fileFailed cause (some path))
  | .ok path => do
    let (content, size) ← spoolBody settings.maxAttachmentBytes
      (.malformed (.attachmentTooLarge part.name settings.maxAttachmentBytes)) 0 part.body
    pure ⟨part.name, part.filename.getD part.name, part.contentType, size, path, content⟩

/-- Take in the descriptor. There may be one only, and what it tells is told at once. -/
def takeDescriptor (settings : UploadSettings) (intake : Intake) (part : UploadPart) :
    Outcome Intake :=
  match intake.descriptor with
  | some _ => .rejected (.malformed .duplicateDescriptor)
  | none => do
    let descriptor ← readJson settings Descriptor.decoder part
    let hint ← Outcome.ofExcept descriptor.hint
    pure { intake with descriptor := some descriptor, told := intake.told ++ [hint] }

/-- Take in the map from bindings to parts. A later one replaces it. -/
def takeParameterMap (settings : UploadSettings) (intake : Intake) (part : UploadPart) :
    Outcome Intake := do
  let parameterMap ← readJson settings (.ordered .text) part
  pure { intake with parameterMap := parameterMap }

/-- Take in a file. Its description becomes the value of the part. -/
def takeAttachment (settings : UploadSettings) (spool : Spool) (intake : Intake)
    (part : UploadPart) : Outcome Intake := do
  let attachment ← readAttachment settings spool part
  pure { intake with
    values := intake.values.insert attachment.partName attachment.json
    attachments := intake.attachments ++ [attachment] }

/-- Take in a value. -/
def takeValue (settings : UploadSettings) (intake : Intake) (part : UploadPart) :
    Outcome Intake := do
  let value ← readValue settings part
  pure { intake with values := intake.values.insert part.name value }

/-- Take in a part. -/
def take (settings : UploadSettings) (spool : Spool) (intake : Intake) (part : UploadPart) :
    Outcome Intake :=
  if part.name.isEmpty then .rejected (.malformed .unnamedPart)
  else if part.name = descriptorName then intake.takeDescriptor settings part
  else if part.name = parameterMapName then intake.takeParameterMap settings part
  else if part.isAttachment then intake.takeAttachment settings spool part
  else intake.takeValue settings part

/-! ## All parts -/

/-- Take in what arrives. The result is what had arrived when the intake ended, and how it ended. -/
def takeAll (settings : UploadSettings) (spool : Spool) (intake : Intake) :
    List Arrival → Intake × Outcome Unit
  | [] => (intake, .done ())
  | .failed reason :: _ => (intake, .rejected reason)
  | .part part :: rest =>
    match intake.take settings spool part with
    | .done intake => takeAll settings spool intake rest
    | .rejected reason => (intake, .rejected reason)
    | .stalled => (intake, .stalled)

/-- The parts that some binding is mapped to. -/
def mappedParts (intake : Intake) : List String :=
  intake.parameterMap.entries.map Prod.snd

/-- The values that keep the names of their parts. -/
def unmapped (intake : Intake) : List (String × Json) :=
  intake.values.entries.filter fun entry => !intake.mappedParts.contains entry.1

/-- The values under the names that the map gives, where their parts have arrived. -/
def mapped (intake : Intake) : List (String × Json) :=
  intake.parameterMap.entries.filterMap fun entry =>
    (intake.values.get? entry.2).map fun value => (entry.1, value)

/-- The bindings that the parts make. -/
def bindings (intake : Intake) : Bindings :=
  .ofList (intake.unmapped ++ intake.mapped)

end Intake

end ActionGateway
