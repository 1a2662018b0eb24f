import ActionGateway.Proofs.ChunkedBodies
import ActionGateway.Proofs.ContentTypes
import ActionGateway.Proofs.PartContents
import ActionGateway.Proofs.WrittenJson

/-!
# Parts that carry values

The content type of a part decides whether the part is kept as a file and, if it is not, how its
content is read: as JSON, as text or not at all. `IsReadAs` says this of a content type as it is
written. The case of its letters and the blank space in it make no difference to the upload.
-/

namespace ActionGateway

namespace Bytes

/-- **The bytes of a text are its encoding**, and there is no other text for them. -/
theorem text?_eq_some_iff {bytes : Bytes} {text : String} :
    text? bytes = some text ↔ bytes = ofText text := by
  constructor
  · intro read
    rw [text?, String.fromUTF8?] at read
    split at read
    · rename_i valid
      cases read
      have encoded : (ofText (String.ofByteArray bytes.toByteArray valid)).toByteArray =
          bytes.toByteArray := by
        rw [ofText, ← List.utf8Encode, String.utf8Encode_toList]
      have data := congrArg ByteArray.data encoded
      rw [List.data_toByteArray, List.data_toByteArray] at data
      exact (List.toArray_inj data).symm
    · cases read
  · rintro rfl
    exact text?_ofText text

/-- Bytes have no text just when they are the bytes of none. -/
theorem text?_eq_none_iff {bytes : Bytes} : text? bytes = none ↔ ∀ text, bytes ≠ ofText text := by
  rw [Option.eq_none_iff_forall_ne_some]
  exact forall_congr' fun text => not_congr text?_eq_some_iff

end Bytes

namespace ContentKind

open Text (isBlank IsCore isCore_iff)

variable {contentType : Option String} {essence : List Char} {parameters : List (List Char)}

/-- **The essence of JSON**, in letters of either case: it is `application/json`, or it ends in
`+json`. -/
def IsJsonEssence (essence : List Char) : Prop :=
  ∃ core, IsCore isBlank essence core ∧
    (lower core = "application/json".toList ∨ "+json".toList <:+ lower core)

/-- A content kind is JSON by its whole essence or by its suffix. -/
theorem isJson_iff (text : List Char) (charset : Option String) :
    isJson ⟨String.ofList text, charset⟩ = true ↔
      text = "application/json".toList ∨ "+json".toList <:+ text := by
  have characters : (String.ofList text).toList = text := String.toList_ofList
  rw [isJson, Bool.or_eq_true, beq_iff_eq, List.isSuffixOf_iff_suffix, ← String.toList_inj,
    characters]

/-- A content type, however it is spelled, is JSON by its essence alone. -/
theorem isJson_ofContentType_iff (written : IsWritten contentType essence parameters) :
    (ofContentType contentType).isJson = true ↔ IsJsonEssence essence := by
  rw [ofContentType_eq written, isJson_iff]
  constructor
  · intro json
    exact ⟨Text.trim essence, isCore_iff.mpr rfl, json⟩
  · intro ⟨core, trimmed, json⟩
    rw [Text.trim_eq_strip, isCore_iff.mp trimmed]
    exact json

/-- The first charset is one that text may be in, if there is one at all. -/
def Supported (parameters : List (List Char)) : Prop :=
  ∀ charset, FirstCharset parameters charset → charset ∈ supportedCharsets

/-- A charset is refused just when it is the first one given and not supported. -/
theorem unsupportedCharset?_eq_some_iff (written : IsWritten contentType essence parameters)
    {charset : String} :
    (ofContentType contentType).unsupportedCharset? = some charset ↔
      FirstCharset parameters charset ∧ charset ∉ supportedCharsets := by
  rw [ofContentType_eq written, unsupportedCharset?, Option.filter_eq_some_iff, firstCharset_iff,
    Bool.not_eq_true', ← Bool.not_eq_true, List.contains_iff_mem]

/-- None is refused just when the first one given, if any, is supported. -/
theorem unsupportedCharset?_eq_none_iff (written : IsWritten contentType essence parameters) :
    (ofContentType contentType).unsupportedCharset? = none ↔ Supported parameters := by
  rw [Option.eq_none_iff_forall_ne_some, Supported]
  apply forall_congr'
  intro charset
  rw [ne_eq, unsupportedCharset?_eq_some_iff written, not_and_not_right]

end ContentKind

/-! ## One part -/

namespace UploadPart

open ContentKind (IsWritten FirstCharset IsJsonEssence Supported supportedCharsets)

/-- **What the content of a part is read as**, given its content type: nothing, if that asks for a
charset that text may not be in; else the value that a JSON text has, if the essence is one of JSON;
else the text that the bytes encode. -/
inductive IsReadAs (name : String) (essence : List Char) (parameters : List (List Char))
    (content : Bytes) : Outcome Json → Prop where
  | otherCharset {charset : String} (first : FirstCharset parameters charset)
      (unsupported : charset ∉ supportedCharsets) :
      IsReadAs name essence parameters content
        (.rejected (.malformed (.unsupportedCharset name charset)))
  | json (supported : Supported parameters) (json : IsJsonEssence essence) {value : Json}
      (valid : Json.ofBytes? content = some value) :
      IsReadAs name essence parameters content (.done value)
  | notJson (supported : Supported parameters) (json : IsJsonEssence essence)
      (invalid : Json.ofBytes? content = none) :
      IsReadAs name essence parameters content (.rejected (.malformed (.notJson name)))
  | text (supported : Supported parameters) (plain : ¬ IsJsonEssence essence) {text : String}
      (encoded : content = Bytes.ofText text) :
      IsReadAs name essence parameters content (.done (.str text))
  | notText (supported : Supported parameters) (plain : ¬ IsJsonEssence essence)
      (invalid : ∀ text, content ≠ Bytes.ofText text) :
      IsReadAs name essence parameters content (.rejected (.malformed (.notText name)))

/-- Every content is read in some way. -/
theorem exists_isReadAs (name : String) (essence : List Char) (parameters : List (List Char))
    (content : Bytes) : ∃ outcome, IsReadAs name essence parameters content outcome := by
  by_cases supported : Supported parameters
  · by_cases json : IsJsonEssence essence
    · cases valid : Json.ofBytes? content with
      | some value => exact ⟨_, .json supported json valid⟩
      | none => exact ⟨_, .notJson supported json valid⟩
    · cases read : Bytes.text? content with
      | some text => exact ⟨_, .text supported json (Bytes.text?_eq_some_iff.mp read)⟩
      | none => exact ⟨_, .notText supported json (Bytes.text?_eq_none_iff.mp read)⟩
  · unfold Supported at supported
    push Not at supported
    obtain ⟨charset, first, unsupported⟩ := supported
    exact ⟨_, .otherCharset first unsupported⟩

/-- The same part, but that its content type is spelled in another way. -/
inductive Respelled : UploadPart → UploadPart → Prop where
  | intro (name : String) (filename : Option String) (body : List BodyItem)
      {contentType other : String} (spelled : ContentKind.Respelled contentType other) :
      Respelled ⟨name, filename, some contentType, body⟩ ⟨name, filename, some other, body⟩

namespace Respelled

variable {part other : UploadPart} (respelled : part.Respelled other)

include respelled

/-- Parts that differ in the spelling of their content type have the same name. -/
theorem name_eq : part.name = other.name := by
  cases respelled
  rfl

/-- Parts that differ in the spelling of their content type have the same content kind. -/
theorem kind_eq : part.kind = other.kind := by
  cases respelled with
  | intro name filename body spelled => exact spelled.ofContentType_eq

/-- Both are attachments, or neither is. -/
theorem isAttachment_eq : part.isAttachment = other.isAttachment := by
  rw [isAttachment, isAttachment, respelled.kind_eq]
  cases respelled
  rfl

/-- Parts that differ in the spelling of their content type are read alike as values. -/
theorem readValue_eq (settings : UploadSettings) :
    Intake.readValue settings part = Intake.readValue settings other := by
  rw [Intake.readValue, Intake.readValue, respelled.kind_eq, respelled.name_eq]
  cases respelled
  rfl

end Respelled

/-- The part carries a value: it is neither the descriptor nor the parameter map, and not kept as a
file. -/
structure CarriesValue (part : UploadPart) : Prop where
  named : part.name ≠ ""
  notDescriptor : part.name ≠ descriptorName
  notParameterMap : part.name ≠ parameterMapName
  notAttachment : part.isAttachment = false

end UploadPart

namespace Intake

open ContentKind UploadPart

variable {settings : UploadSettings} {spool : Spool} {part other : UploadPart}

/-- A value in a charset that is not supported is refused, with that charset named. -/
theorem readValue_of_otherCharset {charset : String}
    (other : part.kind.unsupportedCharset? = some charset) :
    readValue settings part = .rejected (.malformed (.unsupportedCharset part.name charset)) := by
  rw [readValue, other]

/-- In a supported charset a value is the content read, and then its kind. -/
theorem readValue_of_supported (supported : part.kind.unsupportedCharset? = none) :
    readValue settings part =
      (readField settings part).andThen (part.kind.value part.name) := by
  rw [readValue, supported]
  rfl

/-- A value is taken in under the name of its part, once it has been read. -/
theorem take_of_carriesValue (intake : Intake) (carries : part.CarriesValue) :
    intake.take settings spool part = (readValue settings part).andThen fun value =>
      .done { intake with values := intake.values.insert part.name value } := by
  have nonempty : ¬ part.name.isEmpty = true := by
    rw [String.isEmpty_iff]
    exact carries.named
  rw [take, if_neg nonempty, if_neg carries.notDescriptor, if_neg carries.notParameterMap,
    carries.notAttachment]
  rfl

section Chunks

variable {name : String} {filename contentType : Option String} {essence : List Char}
  {parameters : List (List Char)} {chunks : List Bytes} {outcome : Outcome Json}

/-- A value that fits is read as its essence, parameters and content say. -/
theorem readValue_of_isReadAs (written : IsWritten contentType essence parameters)
    (fits : chunks.flatten.length ≤ settings.maxFieldBytes)
    (read : IsReadAs name essence parameters chunks.flatten outcome) :
    readValue settings (.ofChunks name filename contentType chunks) = outcome := by
  have known (supported : Supported parameters) :
      readValue settings (.ofChunks name filename contentType chunks) =
        (ofContentType contentType).value name chunks.flatten := by
    have charset := (unsupportedCharset?_eq_none_iff written).mpr supported
    rw [@readValue_of_supported settings (.ofChunks _ _ _ _) charset, readField_ofChunks _ _ _ fits]
    rfl
  cases read with
  | otherCharset first unsupported =>
      exact readValue_of_otherCharset
        ((unsupportedCharset?_eq_some_iff written).mpr ⟨first, unsupported⟩)
  | json supported json valid =>
      have kind := (isJson_ofContentType_iff written).mpr json
      rw [known supported, value, if_pos kind, valid, Outcome.ofOption]
  | notJson supported json invalid =>
      have kind := (isJson_ofContentType_iff written).mpr json
      rw [known supported, value, if_pos kind, invalid, Outcome.ofOption]
  | text supported plain encoded =>
      have kind := mt (isJson_ofContentType_iff written).mp plain
      rw [known supported, value, if_neg kind, Bytes.text?_eq_some_iff.mpr encoded, Option.map_some,
        Outcome.ofOption]
  | notText supported plain invalid =>
      have kind := mt (isJson_ofContentType_iff written).mp plain
      rw [known supported, value, if_neg kind, Bytes.text?_eq_none_iff.mpr invalid, Option.map_none,
        Outcome.ofOption]

theorem readValue_eq_iff (written : IsWritten contentType essence parameters)
    (fits : chunks.flatten.length ≤ settings.maxFieldBytes) :
    readValue settings (.ofChunks name filename contentType chunks) = outcome ↔
      IsReadAs name essence parameters chunks.flatten outcome := by
  constructor
  · rintro rfl
    obtain ⟨actual, read⟩ := exists_isReadAs name essence parameters chunks.flatten
    rw [readValue_of_isReadAs written fits read]
    exact read
  · exact readValue_of_isReadAs written fits

end Chunks

end Intake

/-! ## Uploads -/

/-- The same arrives, but that the content types of values may be spelled in another way. -/
inductive Arrival.ValueRespelled : Arrival → Arrival → Prop where
  | same (arrival : Arrival) : ValueRespelled arrival arrival
  | value {part other : UploadPart} (respelled : part.Respelled other)
      (value : part.isAttachment = false) : ValueRespelled (.part part) (.part other)

namespace Intake

variable {settings : UploadSettings} {spool : Spool}

/-- Arrivals that differ in the spelling of content types are taken alike. -/
theorem takenAlike_of_valueRespelled {arrival other : Arrival}
    (respelled : arrival.ValueRespelled other) : TakenAlike settings spool arrival other := by
  cases respelled with
  | same arrival =>
      cases arrival with
      | part part => exact .part fun _ => rfl
      | failed reason => exact .failed reason
  | @value part other respelled value =>
      apply TakenAlike.part
      intro intake
      have otherValue : other.isAttachment = false := respelled.isAttachment_eq ▸ value
      -- The descriptor and the parameter map are read as JSON, whatever type they are given.
      have parameterMap : readJson settings (.ordered .text) part =
          readJson settings (.ordered .text) other := by
        cases respelled
        rfl
      have descriptor : readJson settings Descriptor.decoder part =
          readJson settings Descriptor.decoder other := by
        cases respelled
        rfl
      simp only [take, takeDescriptor, takeParameterMap, takeValue, respelled.name_eq, value,
        otherValue, descriptor, parameterMap, respelled.readValue_eq settings, Bool.false_eq_true,
        ↓reduceIte]

end Intake

open ContentKind Intake UploadPart

/-- **Values are read by their content type, however it is spelled.** Two spellings of a content
type make a part an attachment both or neither, and they give the same value or the same rejection;
so an upload becomes the same when the content types of its values are respelled. A part that
carries a value is taken in as the value that is read of it. Another charset than those of text is
rejected whatever the body is. Of a body within the limit, JSON content is read as the value that it
has as a JSON text, and other content as the text that it encodes, or else the part is rejected; the
text that is written for a value is read as that value. -/
theorem values_read_by_content_type (settings : UploadSettings) (spool : Spool) :
    (∀ part other : UploadPart, part.Respelled other →
      part.isAttachment = other.isAttachment ∧
        readValue settings part = readValue settings other) ∧
    (∀ (params : CallParameters) (arrivals others : List Arrival),
      List.Forall₂ Arrival.ValueRespelled arrivals others →
        normalizeUpload settings spool params arrivals =
            normalizeUpload settings spool params others ∧
          invocationOfUpload settings spool arrivals =
            invocationOfUpload settings spool others) ∧
    (∀ part : UploadPart, part.CarriesValue → ∀ intake : Intake,
      intake.take settings spool part = (readValue settings part).andThen fun value =>
        .done { intake with values := intake.values.insert part.name value }) ∧
    (∀ contentType, ∃ essence parameters, IsWritten contentType essence parameters) ∧
    ∀ contentType essence parameters, IsWritten contentType essence parameters →
      ∀ name filename,
        (∀ charset body, FirstCharset parameters charset → charset ∉ supportedCharsets →
          readValue settings ⟨name, filename, contentType, body⟩ =
            .rejected (.malformed (.unsupportedCharset name charset))) ∧
        ∀ chunks : List Bytes, chunks.flatten.length ≤ settings.maxFieldBytes →
          (∀ outcome,
            readValue settings (.ofChunks name filename contentType chunks) = outcome ↔
              IsReadAs name essence parameters chunks.flatten outcome) ∧
          ∀ value : Json, value.IsIntegral → value.WellFormed → value.depth ≤ Json.maxDepth →
            Supported parameters → IsJsonEssence essence →
            chunks.flatten = Bytes.ofText value.compact →
            readValue settings (.ofChunks name filename contentType chunks) = .done value := by
  refine ⟨?_, ?_, ?_, exists_isWritten, ?_⟩
  · intro part other respelled
    exact ⟨respelled.isAttachment_eq, respelled.readValue_eq settings⟩
  · intro params arrivals others respelled
    apply uploads_of_takenAlike
    exact respelled.imp fun _ _ own => takenAlike_of_valueRespelled own
  · intro part carries intake
    exact take_of_carriesValue intake carries
  · intro contentType essence parameters written name filename
    constructor
    · intro charset body first unsupported
      exact readValue_of_otherCharset
        ((unsupportedCharset?_eq_some_iff written).mpr ⟨first, unsupported⟩)
    · intro chunks fits
      constructor
      · intro outcome
        exact readValue_eq_iff written fits
      · intro value integral wellFormed depth supported json content
        apply readValue_of_isReadAs written fits
        apply IsReadAs.json supported json
        rw [content]
        exact Json.ofText?_compact integral wellFormed depth

/-- A part with a short list in two chunks. -/
def shortList (contentType : String) : UploadPart :=
  .ofChunks "list" none (some contentType) [Bytes.ofText "[1", Bytes.ofText "]"]

/-- A content type with a structured suffix, blanks and a quoted charset in capitals. -/
theorem isWritten_linkedData :
    IsWritten (some "Application/LD+JSON ; Charset = \"UTF-8\"") "Application/LD+JSON ".toList
      [" Charset = \"UTF-8\"".toList] :=
  @IsWritten.given "Application/LD+JSON ".toList [" Charset = \"UTF-8\"".toList] (by decide)

/-- Another spelling of that content type. -/
theorem respelled_linkedData :
    ContentKind.Respelled "Application/LD+JSON ; Charset = \"UTF-8\""
      "application/ld+json;charset=\"utf-8\"" := by
  have otherWritten : IsWritten (some "application/ld+json;charset=\"utf-8\"")
      "application/ld+json".toList ["charset=\"utf-8\"".toList] :=
    @IsWritten.given "application/ld+json".toList ["charset=\"utf-8\"".toList] (by decide)
  have essences : Respaced "Application/LD+JSON ".toList "application/ld+json".toList :=
    @Respaced.intro [] [' '] [] [] "Application/LD+JSON".toList "application/ld+json".toList
      (List.all_eq_true.mp rfl) (List.all_eq_true.mp rfl) (by cbv)
  have names : Respaced " Charset ".toList "charset".toList :=
    @Respaced.intro [' '] [' '] [] [] "Charset".toList "charset".toList
      (List.all_eq_true.mp rfl) (List.all_eq_true.mp rfl) (by cbv)
  have values : Respaced " \"UTF-8\"".toList "\"utf-8\"".toList :=
    @Respaced.intro [' '] [] [] [] "\"UTF-8\"".toList "\"utf-8\"".toList
      (List.all_eq_true.mp rfl) (List.all_eq_true.mp rfl) (by cbv)
  have parameters :
      RespelledParameter " Charset = \"UTF-8\"".toList "charset=\"utf-8\"".toList :=
    .pair (by decide) (by decide) names values
  exact .intro isWritten_linkedData otherWritten essences (.cons parameters .nil)

/-- A list is read alike under both spellings, and Latin letters are refused unread. -/
theorem values_read_by_content_type_of_linkedData :
    readValue ⟨3, 3, none⟩ (shortList "application/ld+json;charset=\"utf-8\"") =
        .done (.arr [.num (.int 1)]) ∧
      readValue ⟨3, 3, none⟩ ⟨"list", none, some "text/plain;charset=latin1", [.stall]⟩ =
        .rejected (.malformed (.unsupportedCharset "list" "latin1")) ∧
      Intake.empty.take ⟨3, 3, none⟩ (fun _ => .ok "/spool/1")
          (shortList "application/ld+json;charset=\"utf-8\"") =
        .done { Intake.empty with values := .ofList [("list", .arr [.num (.int 1)])] } ∧
      normalizeUpload ⟨3, 3, none⟩ (fun _ => .ok "/spool/1") ⟨[], []⟩
          [.part (shortList "Application/LD+JSON ; Charset = \"UTF-8\"")] =
        normalizeUpload ⟨3, 3, none⟩ (fun _ => .ok "/spool/1") ⟨[], []⟩
          [.part (shortList "application/ld+json;charset=\"utf-8\"")] := by
  obtain ⟨parts, uploads, takes, -, reads⟩ :=
    values_read_by_content_type ⟨3, 3, none⟩ fun _ => .ok "/spool/1"
  have respelled : (shortList "Application/LD+JSON ; Charset = \"UTF-8\"").Respelled
      (shortList "application/ld+json;charset=\"utf-8\"") :=
    .intro "list" none _ respelled_linkedData
  have utf8 : [" Charset = \"UTF-8\"".toList].findSome? charset? = some "utf-8" := by
    decide +kernel
  have supported : Supported [" Charset = \"UTF-8\"".toList] := by
    intro charset first
    cases utf8.symm.trans (firstCharset_iff.mpr first)
    decide
  have json : IsJsonEssence "Application/LD+JSON ".toList :=
    ⟨"Application/LD+JSON".toList, Text.isCore_iff.mpr (by decide +kernel),
      .inr (by decide +kernel)⟩
  have list : readValue ⟨3, 3, none⟩ (shortList "application/ld+json;charset=\"utf-8\"") =
      .done (.arr [.num (.int 1)]) := by
    rw [← (parts _ _ respelled).2]
    have values := ((reads _ _ _ isWritten_linkedData "list" none).2
      [Bytes.ofText "[1", Bytes.ofText "]"] (by decide)).2
    exact values (.arr [.num (.int 1)]) (by decide) ⟨trivial, trivial⟩ (by decide) supported json
      (by decide)
  have written : IsWritten (some "text/plain;charset=latin1") "text/plain".toList
      ["charset=latin1".toList] :=
    @IsWritten.given "text/plain".toList ["charset=latin1".toList] (by decide)
  have latin : FirstCharset ["charset=latin1".toList] "latin1" :=
    firstCharset_iff.mp (by decide +kernel)
  refine ⟨list, ?_, ?_, ?_⟩
  · exact (reads _ _ _ written "list" none).1 "latin1" [.stall] latin (by decide)
  · rw [takes _ ⟨by decide, by decide, by decide, by decide +kernel⟩, list]
    rfl
  · exact (uploads ⟨[], []⟩ _ _ (.cons (.value respelled (by decide +kernel)) .nil)).1

end ActionGateway
