import ActionGateway.Proofs.DecimalTexts
import ActionGateway.Proofs.LoadedConfigurations
import ActionGateway.Proofs.ReferenceTemplates
import ActionGateway.Settings

/-!
# Integers among the settings

Six settings are integers of 64 bits without a sign. A document may write one of them as a number
or refer to a variable that is set to its digits. Up to the largest integer with a sign the two are
the same. Beyond it the text of the variable no longer stands for an integer, and settings that are
good with the number are refused.
-/

namespace ActionGateway

namespace Variables

/-! ## Resolving a value that is changed at one place -/

variable {known : Variables} {change changed : Json → Json} {child : Json}

/-- Resolving the variables goes through a change of one field. -/
theorem resolveFields_changeField {fields : List (String × Json)} {name : String}
    (found : fields.lookup name = some child)
    (alike : known.resolve (change child) = (known.resolve child).map changed) :
    known.resolveFields (Json.changeField name change fields) =
      (known.resolveFields fields).map (Json.changeField name changed) := by
  induction fields with
  | nil => exact nomatch found
  | cons field rest ih =>
      rw [OrderedMap.lookup_cons_eq_ite] at found
      by_cases same : name = field.1
      · rw [if_pos same] at found
        cases found
        rw [Json.changeField, if_pos same, resolveFields, resolveFields, alike]
        cases known.resolve field.2 with
        | error cause => rfl
        | ok value =>
            cases known.resolveFields rest with
            | error cause => rfl
            | ok others => simp [bind, Except.bind, Except.map, Json.changeField, same]
      · rw [if_neg same] at found
        rw [Json.changeField, if_neg same, resolveFields, resolveFields, ih found]
        cases known.resolve field.2 with
        | error cause => rfl
        | ok value =>
            cases known.resolveFields rest with
            | error cause => rfl
            | ok others => simp [bind, Except.bind, Except.map, Json.changeField, same]

theorem resolveItems_modify {items : List Json} {index : Nat} (found : items[index]? = some child)
    (alike : known.resolve (change child) = (known.resolve child).map changed) :
    known.resolveItems (items.modify index change) =
      (known.resolveItems items).map fun results => results.modify index changed := by
  induction items generalizing index with
  | nil => exact nomatch found
  | cons item rest ih =>
      cases index with
      | zero =>
          cases found
          rw [List.modify_zero_cons, resolveItems, resolveItems, alike]
          cases known.resolve child with
          | error cause => rfl
          | ok value => cases known.resolveItems rest <;> rfl
      | succ index =>
          rw [List.modify_succ_cons, resolveItems, resolveItems, ih found]
          cases known.resolve item with
          | error cause => rfl
          | ok value => cases known.resolveItems rest <;> rfl

/-- So it goes through a change of one child, named or counted. -/
theorem resolve_changeChild {value : Json} {step : Json.Step}
    (found : value.child? step = some child)
    (alike : known.resolve (change child) = (known.resolve child).map changed) :
    known.resolve (value.changeChild step change) =
      (known.resolve value).map fun result => result.changeChild step changed := by
  cases value with
  | obj fields =>
      cases step with
      | item index => cases found
      | field name =>
          rw [Json.changeChild, resolve, resolve, resolveFields_changeField found alike]
          cases known.resolveFields fields <;> rfl
  | arr items =>
      cases step with
      | field name => cases found
      | item index =>
          rw [Json.changeChild, resolve, resolve, resolveItems_modify found alike]
          cases known.resolveItems items <;> rfl
  | null | bool _ | num _ | str _ => cases found

/-- **A value changed at one place** is resolved like the value, apart from what stands there. -/
theorem resolve_putAt {place : List Json.Step} {value old new before after : Json}
    (found : value.at? place = some old) (former : known.ResolvesTo old before)
    (latter : known.ResolvesTo new after) :
    known.resolve (value.putAt place new) =
      (known.resolve value).map fun result => result.putAt place after := by
  induction place generalizing value with
  | nil =>
      cases found
      have same : known.resolve old = .ok before := former
      rw [Json.putAt, same]
      exact latter
  | cons step rest ih =>
      obtain ⟨child, here, below⟩ := Option.bind_eq_some_iff.mp found
      exact resolve_changeChild here (ih below)

end Variables

/-! ## Places of the settings -/

namespace Json

/-- **The step leads to a field of a record** that is written as an object or as an array of its
fields in their declared order. -/
def Step.LeadsTo (names : List String) (name : String) : Step → Prop
  | .field own => own = name
  | .item index => names[index]? = some name

/-- The field written at a position is found under the name of that position. -/
theorem lookup_zip_of_getElem? {names : List String} (distinct : names.Nodup) {items : List Json}
    {index : Nat} {name : String} {inner : Json} (named : names[index]? = some name)
    (found : items[index]? = some inner) : (names.zip items).lookup name = some inner := by
  induction items generalizing names index with
  | nil => exact nomatch found
  | cons item rest ih =>
      cases names with
      | nil => exact nomatch named
      | cons first names =>
          obtain ⟨once, distinct⟩ := List.nodup_cons.mp distinct
          rw [List.zip_cons_cons, OrderedMap.lookup_cons_eq_ite]
          cases index with
          | zero =>
              cases named
              cases found
              exact if_pos rfl
          | succ index =>
              have later : name ≠ first := by
                rintro rfl
                exact once (List.mem_of_getElem? named)
              rw [if_neg later]
              exact ih distinct named found

/-- A record finds its field whether it is written as an object or as a list. -/
theorem recordField?_of_child? {names : List String} (distinct : names.Nodup) {name : String}
    {step : Step} (leads : step.LeadsTo names name) {value inner : Json}
    (found : value.child? step = some inner) : value.recordField? names name = some inner := by
  cases value with
  | obj fields =>
      cases step with
      | item index => exact nomatch found
      | field own =>
          obtain rfl : own = name := leads
          exact found
  | arr items =>
      cases step with
      | field own => exact nomatch found
      | item index => exact lookup_zip_of_getElem? distinct leads found
  | null | bool _ | num _ | str _ => exact nomatch found

/-! ## Integers without a sign -/

namespace Decoder

/-- A value reads as an unsigned number exactly when it is one that fits the bits. -/
theorem unsigned_ofValue_eq_some_iff {bits room : Nat} {value : Json} {number : Nat} :
    unsigned bits room (Raw.ofValue value) = some number ↔
      value = Json.ofNat number ∧ number < Nat.pow 2 bits := by
  constructor
  · intro decoded
    unfold unsigned at decoded
    split at decoded
    · next integer written =>
        obtain ⟨⟨low, high⟩, same⟩ := Option.ite_none_right_eq_some.mp decoded
        obtain ⟨magnitude, rfl⟩ := Int.eq_ofNat_of_zero_le low
        cases Option.some.inj same
        refine ⟨?_, Int.ofNat_lt.mp high⟩
        cases value with
        | num content =>
            cases written
            rfl
        | null | bool _ | str _ | arr _ | obj _ => exact nomatch written
    · exact nomatch decoded
  · rintro ⟨rfl, fits⟩
    rw [Json.ofNat, Json.ofInt, Raw.ofValue, unsigned,
      if_pos ⟨Int.natCast_nonneg number, Int.ofNat_lt.mpr fits⟩]
    rfl

/-- **A field of a record holds the number**, if the record has the field. -/
def HoldsUnsigned (record : Json) (names : List String) (name : String) (number : Nat) : Prop :=
  ∀ inner, record.recordField? names name = some inner → inner = Json.ofNat number

/-- A field that decodes as a word, where it is given, holds one. -/
theorem holdsUnsigned_of_optional {names : List String} {name : String} (asked : name ∈ names)
    {room : Nat} {record : Json} (sound : record.WellFormed) {read : Fields}
    (given : fields names room (Raw.ofValue record) = some read) {default number : Nat}
    (decoded : read.optional name (unsigned 64) default = some number) :
    HoldsUnsigned record names name number := by
  intro inner found
  rw [optional_of_recordField? _ _ found asked sound given] at decoded
  exact (unsigned_ofValue_eq_some_iff.mp decoded).1

end Decoder

end Json

open Json.Decoder

/-- The fields of a timeout policy in their declared order. -/
def TimeoutPolicy.fieldNames : List String := ["default_timeout_ms", "max_timeout_ms"]

/-- The fields of cache settings in their declared order. -/
def CacheSettings.fieldNames : List String := ["ttl_secs", "max_entries"]

/-- The fields of upload settings in their declared order. -/
def UploadSettings.fieldNames : List String :=
  ["max_attachment_bytes", "max_field_bytes", "spool_dir"]

/-- The sections of settings in their declared order. -/
def Settings.fieldNames : List String := ["execution", "cache", "upload", "default_environment"]

/-- A timeout policy that decodes holds its limits as written. -/
theorem TimeoutPolicy.holds_of_decoder {room : Nat} {record : Json} {policy : TimeoutPolicy}
    (sound : record.WellFormed) (read : decoder room (.ofValue record) = some policy) :
    HoldsUnsigned record fieldNames "default_timeout_ms" policy.defaultMs ∧
      HoldsUnsigned record fieldNames "max_timeout_ms" policy.maxMs := by
  obtain ⟨fields, given, read⟩ := Option.bind_eq_some_iff.mp read
  obtain ⟨defaultMs, first, read⟩ := Option.bind_eq_some_iff.mp read
  obtain ⟨maxMs, second, read⟩ := Option.bind_eq_some_iff.mp read
  cases read
  exact ⟨holdsUnsigned_of_optional (by decide) sound given first,
    holdsUnsigned_of_optional (by decide) sound given second⟩

theorem CacheSettings.holds_of_decoder {room : Nat} {record : Json} {settings : CacheSettings}
    (sound : record.WellFormed) (read : decoder room (.ofValue record) = some settings) :
    HoldsUnsigned record fieldNames "ttl_secs" settings.ttlSeconds ∧
      HoldsUnsigned record fieldNames "max_entries" settings.maxEntries := by
  obtain ⟨fields, given, read⟩ := Option.bind_eq_some_iff.mp read
  obtain ⟨ttlSeconds, first, read⟩ := Option.bind_eq_some_iff.mp read
  obtain ⟨maxEntries, second, read⟩ := Option.bind_eq_some_iff.mp read
  cases read
  exact ⟨holdsUnsigned_of_optional (by decide) sound given first,
    holdsUnsigned_of_optional (by decide) sound given second⟩

theorem UploadSettings.holds_of_decoder {room : Nat} {record : Json} {settings : UploadSettings}
    (sound : record.WellFormed) (read : decoder room (.ofValue record) = some settings) :
    HoldsUnsigned record fieldNames "max_attachment_bytes" settings.maxAttachmentBytes ∧
      HoldsUnsigned record fieldNames "max_field_bytes" settings.maxFieldBytes := by
  obtain ⟨fields, given, read⟩ := Option.bind_eq_some_iff.mp read
  obtain ⟨maxAttachmentBytes, first, read⟩ := Option.bind_eq_some_iff.mp read
  obtain ⟨maxFieldBytes, second, read⟩ := Option.bind_eq_some_iff.mp read
  obtain ⟨spoolDirectory, -, read⟩ := Option.bind_eq_some_iff.mp read
  cases read
  exact ⟨holdsUnsigned_of_optional (by decide) sound given first,
    holdsUnsigned_of_optional (by decide) sound given second⟩

/-- **An integer among the settings.** -/
inductive IntegerSetting where
  | defaultTimeoutMs
  | maxTimeoutMs
  | ttlSeconds
  | maxEntries
  | maxAttachmentBytes
  | maxFieldBytes
  deriving DecidableEq, Repr

namespace IntegerSetting

/-- The section that has the setting. -/
def sectionName : IntegerSetting → String
  | defaultTimeoutMs | maxTimeoutMs => "execution"
  | ttlSeconds | maxEntries => "cache"
  | maxAttachmentBytes | maxFieldBytes => "upload"

/-- The fields of the section in their declared order. -/
def sectionFields : IntegerSetting → List String
  | defaultTimeoutMs | maxTimeoutMs => TimeoutPolicy.fieldNames
  | ttlSeconds | maxEntries => CacheSettings.fieldNames
  | maxAttachmentBytes | maxFieldBytes => UploadSettings.fieldNames

/-- No section has two fields of one name. -/
theorem nodup_sectionFields (setting : IntegerSetting) : setting.sectionFields.Nodup := by
  cases setting <;> decide

/-- The name of the setting in its section. -/
def fieldName : IntegerSetting → String
  | defaultTimeoutMs => "default_timeout_ms"
  | maxTimeoutMs => "max_timeout_ms"
  | ttlSeconds => "ttl_secs"
  | maxEntries => "max_entries"
  | maxAttachmentBytes => "max_attachment_bytes"
  | maxFieldBytes => "max_field_bytes"

/-- What the setting is set to. -/
def value (settings : Settings) : IntegerSetting → Nat
  | defaultTimeoutMs => settings.execution.defaultMs
  | maxTimeoutMs => settings.execution.maxMs
  | ttlSeconds => settings.cache.ttlSeconds
  | maxEntries => settings.cache.maxEntries
  | maxAttachmentBytes => settings.upload.maxAttachmentBytes
  | maxFieldBytes => settings.upload.maxFieldBytes

/-- The place leads to the setting in a document. -/
def IsPlace (setting : IntegerSetting) : List Json.Step → Prop
  | [outer, inner] =>
    outer.LeadsTo Settings.fieldNames setting.sectionName ∧
      inner.LeadsTo setting.sectionFields setting.fieldName
  | _ => False

/-- **What a document has in the place of a setting** is the number that the setting is set to. -/
theorem eq_of_decoder {setting : IntegerSetting} {place : List Json.Step}
    (leads : setting.IsPlace place) {room : Nat} {document leaf : Json}
    (sound : document.WellFormed)
    (found : document.at? place = some leaf) {settings : Settings}
    (read : Settings.decoder room (.ofValue document) = some settings) :
    leaf = Json.ofNat (setting.value settings) := by
  obtain ⟨outer, inner, rfl⟩ : ∃ outer inner, place = [outer, inner] := by
    unfold IsPlace at leads
    split at leads
    · exact ⟨_, _, rfl⟩
    · exact leads.elim
  obtain ⟨toSection, toField⟩ := leads
  obtain ⟨record, hasRecord, found⟩ := Option.bind_eq_some_iff.mp found
  obtain ⟨other, hasLeaf, found⟩ := Option.bind_eq_some_iff.mp found
  cases found
  have hasSection := Json.recordField?_of_child? (by decide) toSection hasRecord
  have hasField := Json.recordField?_of_child? setting.nodup_sectionFields toField hasLeaf
  have soundRecord := sound.recordField? hasSection
  obtain ⟨fields, given, read⟩ := Option.bind_eq_some_iff.mp read
  obtain ⟨execution, first, read⟩ := Option.bind_eq_some_iff.mp read
  obtain ⟨cache, second, read⟩ := Option.bind_eq_some_iff.mp read
  obtain ⟨upload, third, read⟩ := Option.bind_eq_some_iff.mp read
  obtain ⟨defaultEnvironment, -, read⟩ := Option.bind_eq_some_iff.mp read
  cases read
  have toExecution
      (present : document.recordField? Settings.fieldNames "execution" = some record) :=
    (optional_of_recordField? _ _ present (by decide) sound given).symm.trans first
  have toCache (present : document.recordField? Settings.fieldNames "cache" = some record) :=
    (optional_of_recordField? _ _ present (by decide) sound given).symm.trans second
  have toUpload (present : document.recordField? Settings.fieldNames "upload" = some record) :=
    (optional_of_recordField? _ _ present (by decide) sound given).symm.trans third
  cases setting with
  | defaultTimeoutMs =>
      exact (TimeoutPolicy.holds_of_decoder soundRecord (toExecution hasSection)).1 _ hasField
  | maxTimeoutMs =>
      exact (TimeoutPolicy.holds_of_decoder soundRecord (toExecution hasSection)).2 _ hasField
  | ttlSeconds =>
      exact (CacheSettings.holds_of_decoder soundRecord (toCache hasSection)).1 _ hasField
  | maxEntries =>
      exact (CacheSettings.holds_of_decoder soundRecord (toCache hasSection)).2 _ hasField
  | maxAttachmentBytes =>
      exact (UploadSettings.holds_of_decoder soundRecord (toUpload hasSection)).1 _ hasField
  | maxFieldBytes =>
      exact (UploadSettings.holds_of_decoder soundRecord (toUpload hasSection)).2 _ hasField

end IntegerSetting

namespace Settings

/-! ## Settings of a document -/

variable {known : Variables} {content otherContent : String} {format otherFormat : DocumentFormat}
  {written : Json} {settings : Settings}

/-- A parsed document is well formed. -/
theorem wellFormed_of_document (given : document content format = .ok written) :
    written.WellFormed := by
  unfold document at given
  split at given
  · cases given
    exact ⟨List.Pairwise.nil, trivial⟩
  · cases read : format.read content with
    | error cause =>
        rw [read] at given
        exact nomatch given
    | ok value =>
        rw [read] at given
        cases given
        dsimp only
        split
        · exact ⟨List.Pairwise.nil, trivial⟩
        · exact DocumentFormat.wellFormed_of_read read

/-- What becomes of a document that was read. -/
theorem parse_eq (known : Variables) (given : document content format = .ok written) :
    parse known content format =
      match known.resolve written with
      | .error cause => .error (.reference cause)
      | .ok resolved =>
        match decoder.ofValue? resolved with
        | none => .error .unexpectedContent
        | some settings => settings.fault?.elim (.ok settings) fun fault =>
            .error (.settings fault) := by
  simp only [parse, Variables.decode, given, bind, Except.bind]
  cases known.resolve written with
  | error cause => rfl
  | ok resolved =>
      dsimp only
      cases decoder.ofValue? resolved with
      | none => rfl
      | some settings =>
          dsimp only
          cases settings.fault? <;> rfl

/-- Settings are accepted when the document decodes to them and they have no fault. -/
theorem parse_eq_ok_iff :
    parse known content format = .ok settings ↔
      ∃ written resolved, document content format = .ok written ∧
        known.ResolvesTo written resolved ∧ decoder.ofValue? resolved = some settings ∧
        settings.fault? = none := by
  constructor
  · intro parsed
    unfold parse at parsed
    obtain ⟨written, given, parsed⟩ := of_bind_eq_ok parsed
    obtain ⟨decoded, made, parsed⟩ := of_bind_eq_ok parsed
    obtain ⟨resolved, resolves, decodes⟩ := Variables.decode_eq_ok_iff.mp made
    cases faulty : decoded.fault? with
    | some fault =>
        rw [faulty] at parsed
        exact nomatch parsed
    | none =>
        rw [faulty] at parsed
        cases parsed
        exact ⟨written, resolved, given, resolves, decodes, faulty⟩
  · rintro ⟨written, resolved, given, resolves, decodes, faultless⟩
    rw [parse_eq known given, resolves]
    simp only [decodes, faultless, Option.elim_none]

/-- A setting is what the document has in its place. -/
theorem value_of_parse {setting : IntegerSetting} {place : List Json.Step}
    (leads : setting.IsPlace place) (given : document content format = .ok written) {number : Nat}
    (found : written.at? place = some (Json.ofNat number))
    (parsed : parse known content format = .ok settings) : setting.value settings = number := by
  obtain ⟨other, resolved, again, resolves, decodes, -⟩ := parse_eq_ok_iff.mp parsed
  obtain rfl := Except.ok.inj (given.symm.trans again)
  have sound := Variables.wellFormed_of_resolve written (wellFormed_of_document given) resolves
  obtain ⟨leaf, own, there⟩ := Variables.exists_at?_of_resolve resolves found
  cases own
  have same := IntegerSetting.eq_of_decoder leads sound there decodes
  exact (Int.ofNat.inj (Json.Number.int.inj (Json.num.inj same))).symm

variable {reference : VariableReference} {number : Nat} {setting : IntegerSetting}
  {place : List Json.Step}

/-- A reference that spells a number stands for it in every integer setting while the number is
below `2 ^ 63`; from there on the settings are refused. -/
theorem parse_referenced (writable : reference.Writable)
    (spelled : known.textOf reference = .ok (toString number)) (leads : setting.IsPlace place)
    (given : document content format = .ok written)
    (refers : written.at? place = some (.str (String.ofList reference.text)))
    (givenOther : document otherContent otherFormat =
      .ok (written.putAt place (Json.ofNat number))) :
    parse known content format =
      if number < Nat.pow 2 63 then parse known otherContent otherFormat
      else match parse known otherContent otherFormat with
        | .error (.reference cause) => .error (.reference cause)
        | _ => .error .unexpectedContent := by
  have toText : known.ResolvesTo (.str (String.ofList reference.text))
      (Variables.coerce (toString number)) := by
    rw [Variables.ResolvesTo, known.resolve_written writable, spelled]
    rfl
  have toNumber : known.ResolvesTo (Json.ofNat number) (Json.ofNat number) := rfl
  have alike := Variables.resolve_putAt refers toText toNumber
  rw [parse_eq known given, parse_eq known givenOther, alike]
  cases resolves : known.resolve written with
  | error cause => exact (ite_self _).symm
  | ok resolved =>
      have sound := Variables.wellFormed_of_resolve written (wellFormed_of_document given) resolves
      obtain ⟨leaf, own, there⟩ := Variables.exists_at?_of_resolve resolves refers
      obtain rfl : Variables.coerce (toString number) = leaf := by
        exact Except.ok.inj (toText.symm.trans own)
      by_cases small : number < Nat.pow 2 63
      · -- The text stands for the number, so nothing changes when that is put in its place.
        have signed : Literal.IsSigned number := Literal.isSigned_natCast_iff.mpr small
        have same : Variables.coerce (toString number) = Json.ofNat number :=
          (Variables.coerce_toString_eq_ofInt_iff number number).mpr ⟨signed, rfl⟩
        rw [same] at there
        rw [if_pos small, Except.map, Json.putAt_eq_self there]
      · have refused : decoder.ofValue? resolved = none := by
          cases decodes : decoder.ofValue? resolved with
          | none => rfl
          | some settings =>
              have same := IntegerSetting.eq_of_decoder leads sound there decodes
              have signed := ((Variables.coerce_toString_eq_ofInt_iff number _).mp same).1
              exact (small (Literal.isSigned_natCast_iff.mp signed)).elim
        rw [if_neg small]
        simp only [refused, Except.map]
        cases decoder.ofValue? (resolved.putAt place (Json.ofNat number)) with
        | none => rfl
        | some settings =>
            dsimp only
            cases settings.fault? <;> rfl

/-- **An integer through a variable.** Take a document that refers to a variable in the place of an
integer setting, and the document that has the digits of the variable there instead, which every
reader reads as the number. Up to the largest integer with a sign the two give the same; beyond it
the first is refused, unless another reference fails before that. Settings that the second gives
are set to the number. -/
theorem parse_integer_of_variable (writable : reference.Writable) (fits : number < Nat.pow 2 64)
    (spelled : known.textOf reference = .ok (toString number)) (leads : setting.IsPlace place)
    (given : document content format = .ok written)
    (refers : written.at? place = some (.str (String.ofList reference.text)))
    (givenOther : document otherContent otherFormat =
      .ok (written.putAt place (Json.ofNat number))) :
    (∀ fuel rest, Json.Raw.EndsNumber rest →
      Json.Raw.readValue (fuel + 1) (Bytes.ofText (toString number) ++ rest) =
        some (Json.Raw.ofValue (Json.ofNat number), rest)) ∧
    Yaml.scalar? none true (toString number) = some (Json.ofNat number) ∧
    (parse known content format =
      if number < Nat.pow 2 63 then parse known otherContent otherFormat
      else match parse known otherContent otherFormat with
        | .error (.reference cause) => .error (.reference cause)
        | _ => .error .unexpectedContent) ∧
    ∀ settings, parse known otherContent otherFormat = .ok settings →
      setting.value settings = number := by
  refine ⟨?_, Yaml.scalar?_toString fits, ?_, ?_⟩
  · intro fuel rest ends
    exact Json.Raw.readValue_ofNat fits fuel ends
  · exact parse_referenced writable spelled leads given refers givenOther
  · intro settings parsed
    exact value_of_parse leads givenOther (Json.at?_putAt refers _) parsed

/-- The variable that a limit is taken from. -/
def limitReference : VariableReference := ⟨"ACTUATE_N", none⟩

/-- Variables that spell a number in digits. -/
def limitVariables (digits : String) : Variables :=
  ⟨Variables.defaultPrefixes, fun name => if name = "ACTUATE_N" then some digits else none⟩

/-- A settings file whose longest timeout is a variable. -/
def limitContent : String :=
  "\x7b\"execution\": \x7b\"max_timeout_ms\": \"$\x7bACTUATE_N\x7d\"\x7d\x7d"

/-- The document it is parsed to. -/
def limitDocument : Json :=
  .obj [("execution", .obj [("max_timeout_ms", .str "$\x7bACTUATE_N\x7d")])]

/-- Where the reference stands. -/
def limitPlace : List Json.Step := [.field "execution", .field "max_timeout_ms"]

/-- The content with a number in the place of the reference, in the other format. -/
def limitYaml (digits : String) : String :=
  "execution:\n  max_timeout_ms: " ++ digits ++ "\n"

/-- The largest signed number is as good a limit taken from a variable as when it is written out. -/
theorem parse_integer_of_variable_limit :
    limitReference.Writable ∧
      (limitVariables "9223372036854775807").textOf limitReference =
        .ok (toString 9223372036854775807) ∧
      IntegerSetting.maxTimeoutMs.IsPlace limitPlace ∧
      document limitContent .json = .ok limitDocument ∧
      document (limitYaml "9223372036854775807") .yaml =
        .ok (limitDocument.putAt limitPlace (Json.ofNat 9223372036854775807)) ∧
      parse (limitVariables "9223372036854775807") limitContent .json =
        parse (limitVariables "9223372036854775807") (limitYaml "9223372036854775807") .yaml ∧
      ∀ settings, parse (limitVariables "9223372036854775807")
          (limitYaml "9223372036854775807") .yaml = .ok settings →
        settings.execution.maxMs = 9223372036854775807 := by
  have writable : limitReference.Writable := by decide
  have spelled : (limitVariables "9223372036854775807").textOf limitReference =
      .ok (toString 9223372036854775807) := by decide +kernel
  have leads : IntegerSetting.maxTimeoutMs.IsPlace limitPlace := ⟨rfl, rfl⟩
  have given : document limitContent .json = .ok limitDocument := by decide +kernel
  have refers : limitDocument.at? limitPlace = some (.str (String.ofList limitReference.text)) := by
    decide +kernel
  have givenOther : document (limitYaml "9223372036854775807") .yaml =
      .ok (limitDocument.putAt limitPlace (Json.ofNat 9223372036854775807)) := by
    decide +kernel
  obtain ⟨-, -, same, kept⟩ := parse_integer_of_variable writable (by decide) spelled leads
    given refers givenOther
  exact ⟨writable, spelled, leads, given, givenOther, same, kept⟩

/-- The largest integer without a sign is good as a number and refused from a variable. -/
theorem unsigned_integer_of_variable_is_refused :
    parse (limitVariables "18446744073709551615") limitContent .json = .error .unexpectedContent ∧
      parse (limitVariables "18446744073709551615") (limitYaml "18446744073709551615") .yaml =
        .ok ⟨⟨10000, 18446744073709551615⟩, .standard, .standard, "production"⟩ := by
  constructor
  · decide +kernel
  · decide +kernel

end Settings

end ActionGateway
