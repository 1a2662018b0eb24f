import ActionGateway.Proofs.ChunkedBodies
import ActionGateway.Proofs.ConformingReader
import ActionGateway.Proofs.FailedStreams

/-!
# Encoded forms

A form is encoded part by part, each behind a delimiter. The encoding holds the parts as fields,
whatever bytes their contents hold, so any decoder that conforms to the protocol gives them back,
and the parts arrive in order, with their names, file names, content types and contents.
-/

namespace ActionGateway

open Multipart

/-- No delimiter starts within itself: a boundary has no line break. -/
theorem FormBoundary.once_lineBreak (boundary : FormBoundary) :
    0x0D ∉ (0x0A :: delimiter boundary.text : Bytes) := by
  intro member
  rw [delimiter, List.mem_cons, List.mem_append] at member
  rcases member with newline | hyphen | inBoundary
  · exact absurd newline (by decide)
  · exact absurd hyphen (by decide)
  · obtain ⟨-, -, -, low, -⟩ := Bytes.exists_char_of_visible boundary.visible inBoundary
    exact absurd low (by decide)

/-- **Part of a form**, with any bytes as its content. -/
structure FormPart where
  name : AttributeText
  filename : Option AttributeText
  contentType : Option PlainMediaType
  content : Bytes

namespace FormPart

open PartHeader

/-! ## Encoding -/

/-- The attributes of a part, each behind one blank. -/
def attributes (part : FormPart) : List DispositionAttribute :=
  ⟨1, .name, part.name⟩ ::
    (part.filename.map fun filename => ⟨1, .filename, filename⟩).toList

/-- The field that a part is sent as. -/
def sent (part : FormPart) : SentField := ⟨part.attributes, part.contentType, part.content⟩

/-- An attribute can stand in a header. -/
theorem isValueByte_attribute (own : DispositionAttribute) :
    ∀ byte ∈ own.bytes, isValueByte byte = true := by
  refine List.forall_mem_append.mpr ⟨?_, List.forall_mem_cons.mpr ⟨rfl, ?_⟩⟩
  · refine List.forall_mem_cons.mpr ⟨rfl, List.forall_mem_append.mpr ⟨?_, ?_⟩⟩
    · intro byte member
      rw [List.eq_of_mem_replicate member]
      rfl
    · cases own.key <;> exact List.all_eq_true.mp rfl
  · exact List.forall_mem_append.mpr ⟨own.value.isValueByte_bytes, List.all_eq_true.mp rfl⟩

/-- A disposition with attributes ends in a quote. -/
theorem trimmed_formDisposition (own : DispositionAttribute) (rest : List DispositionAttribute) :
    trimmed (formDisposition (own :: rest)) = formDisposition (own :: rest) := by
  obtain ⟨start, shape⟩ : ∃ start, formDisposition (own :: rest) = start ++ [0x22] := by
    obtain ⟨before, last, ends⟩ : ∃ before last, own :: rest = before ++ [last] :=
      ⟨_, _, (List.dropLast_append_getLast (List.cons_ne_nil own rest)).symm⟩
    refine ⟨formDisposition before ++ (last.opening ++ 0x22 :: last.value.bytes), ?_⟩
    rw [formDisposition, ends, List.flatMap_append, List.flatMap_singleton]
    simp [formDisposition, DispositionAttribute.bytes]
  refine trimmed_of_ends rfl ?_
  rw [shape, List.reverse_append]
  rfl

/-- The header line that tells the name and the file name of a part. -/
def dispositionLine (part : FormPart) : HeaderLine where
  name := Bytes.ofText "Content-Disposition"
  value := formDisposition part.attributes
  named := by decide
  name_bytes := List.all_eq_true.mp rfl
  value_bytes := by
    refine List.forall_mem_append.mpr ⟨List.all_eq_true.mp rfl, fun byte member => ?_⟩
    obtain ⟨own, -, inside⟩ := List.mem_flatMap.mp member
    exact isValueByte_attribute own byte inside
  trimmed := trimmed_formDisposition _ _

/-- The header lines of a part. -/
def headerLines (part : FormPart) : List HeaderLine :=
  part.dispositionLine :: (part.contentType.map PlainMediaType.line).toList

/-- A part, behind the delimiter. -/
def encoded (boundary : FormBoundary) (part : FormPart) : Bytes :=
  delimiter boundary.text ++ lineBreak ++ HeaderLine.block part.headerLines ++ lineBreak ++
    part.content ++ lineBreak

/-- **Form**: its parts and the closing delimiter. -/
def encodedForm (boundary : FormBoundary) (parts : List FormPart) : Bytes :=
  parts.flatMap (encoded boundary) ++ delimiter boundary.text ++ hyphens

/-- What follows the first delimiter of a form. -/
def behindDelimiter (boundary : FormBoundary) (epilogue : Bytes) : List FormPart → Bytes
  | [] => hyphens ++ epilogue
  | part :: rest =>
    lineBreak ++ (HeaderLine.block part.headerLines ++ lineBreak ++ (part.content ++
      (lineBreak ++ delimiter boundary.text ++ behindDelimiter boundary epilogue rest)))

/-- A form starts with a delimiter, and its first part follows. -/
theorem encodedForm_append (boundary : FormBoundary) (parts : List FormPart) (epilogue : Bytes) :
    encodedForm boundary parts ++ epilogue =
      delimiter boundary.text ++ behindDelimiter boundary epilogue parts := by
  induction parts with
  | nil => simp [encodedForm, behindDelimiter]
  | cons part rest ih =>
      have step : encodedForm boundary (part :: rest) ++ epilogue =
          encoded boundary part ++ (encodedForm boundary rest ++ epilogue) := by
        simp [encodedForm, List.append_assoc]
      rw [step, ih]
      simp [encoded, behindDelimiter, List.append_assoc]

/-! ## What an encoded form holds -/

variable {boundary : FormBoundary}

/-- The header lines of a part tell the field that it is sent as. -/
theorem isToldBy_headerLines (part : FormPart) : part.sent.IsToldBy part.headerLines where
  once := by
    rw [headerLines]
    cases part.contentType with
    | none => exact List.nodup_singleton _
    | some mediaType =>
        have names : ["content-disposition".toList, "content-type".toList].Nodup := by decide
        exact names
  keysOnce := by
    rw [sent, attributes]
    cases part.filename with
    | none => exact List.nodup_singleton _
    | some filename =>
        have keys : [AttributeKey.name, .filename].Nodup := by decide
        exact keys
  disposed := ⟨part.dispositionLine, List.mem_cons_self, rfl, rfl⟩
  typed mediaType own := by
    have typed : part.contentType = some mediaType := own
    refine ⟨mediaType.line, ?_, rfl, rfl⟩
    rw [headerLines, typed]
    exact List.mem_cons_of_mem _ List.mem_cons_self
  untyped own := by
    have untyped : part.contentType = none := own
    rw [headerLines, untyped]
    have different : "content-disposition".toList ≠ "content-type".toList := by decide
    exact List.forall_mem_singleton.mpr different

/-- A part has two header lines at most. -/
theorem length_headerLines_le (part : FormPart) : part.headerLines.length ≤ 2 := by
  rw [headerLines]
  cases part.contentType with
  | none => exact Nat.le_succ 1
  | some mediaType => exact Nat.le_refl 2

/-- **The fields behind a delimiter of an encoded form** are its parts: no header line holds an
empty line, and no content the delimiter that ends it. -/
theorem fieldsBehind_behindDelimiter {room : Nat} (enough : 2 ≤ room) {parts : List FormPart}
    (apart : ∀ part ∈ parts, ¬ lineBreak ++ delimiter boundary.text <:+: part.content)
    {epilogue : Bytes} (closed : epilogue = [] ∨ lineBreak <+: epilogue) :
    FieldsBehind boundary.text room (behindDelimiter boundary epilogue parts)
      (parts.map sent) := by
  induction parts with
  | nil => exact .closed closed
  | cons part rest ih =>
      obtain ⟨own, others⟩ := List.forall_mem_cons.mp apart
      obtain ⟨start, whole, found⟩ := HeaderLine.splitAtMark_block
        (List.cons_ne_nil part.dispositionLine _) [] (part.content ++
          (lineBreak ++ delimiter boundary.text ++ behindDelimiter boundary epilogue rest))
      have ended : splitAtMark (lineBreak ++ delimiter boundary.text) [] (part.content ++
          (lineBreak ++ delimiter boundary.text ++ behindDelimiter boundary epilogue rest)) =
            some (part.content, behindDelimiter boundary epilogue rest) :=
        splitAtMark_append_of_not_infix boundary.once_lineBreak [] own _
      exact .field (List.forall_mem_nil _) (firstAt_of_splitAtMark found) whole
        (Nat.le_trans part.length_headerLines_le enough) part.isToldBy_headerLines
        (firstAt_of_splitAtMark ended) (ih others)

/-- **An encoded form holds its parts.** -/
theorem holdsFields_encodedForm {room : Nat} (enough : 2 ≤ room) {parts : List FormPart}
    (apart : ∀ part ∈ parts, ¬ lineBreak ++ delimiter boundary.text <:+: part.content)
    {epilogue : Bytes} (closed : epilogue = [] ∨ lineBreak <+: epilogue) :
    HoldsFields boundary.text room (encodedForm boundary parts ++ epilogue) (parts.map sent) := by
  refine ⟨[], behindDelimiter boundary epilogue parts, ?_, .inl rfl,
    fieldsBehind_behindDelimiter enough apart closed⟩
  exact ⟨encodedForm_append boundary parts epilogue, fun _ _ _ => Nat.zero_le _⟩

/-! ## Parts built directly -/

/-- The part built directly, its content in any chunks. -/
def IsBuilt (part : FormPart) (direct : UploadPart) : Prop :=
  ∃ chunks : List Bytes, chunks.flatten = part.content ∧
    direct = .ofChunks part.name.text (part.filename.map AttributeText.text)
      (part.contentType.map PlainMediaType.text) chunks

/-- A field that carries a part becomes the part built directly. -/
theorem isBuilt_of_carries {part : FormPart} {given : FormField}
    (carries : given.Carries part.sent) :
    part.IsBuilt given.part := by
  obtain ⟨name, filename, contentType, chunks, whole, body⟩ := carries
  have ownName : given.name = some part.name.text := name
  have ownFilename : given.filename = part.filename.map AttributeText.text := by
    rw [filename, sent, attributes]
    cases part.filename <;> rfl
  refine ⟨chunks, whole, ?_⟩
  rw [FormField.part, ownName, ownFilename, contentType, body, List.map_map]
  rfl

/-- Parts that are built alike differ at most in their chunks. -/
theorem recut_of_isBuilt {parts : List FormPart} {arrived direct : List UploadPart}
    (first : List.Forall₂ IsBuilt parts arrived) (second : List.Forall₂ IsBuilt parts direct) :
    List.Forall₂ UploadPart.Recut arrived direct := by
  induction first generalizing direct with
  | nil =>
      cases second
      exact .nil
  | @cons part _ _ _ own _ ih =>
      cases second with
      | cons built others =>
          obtain ⟨chunks, whole, rfl⟩ := own
          obtain ⟨otherChunks, sameWhole, rfl⟩ := built
          exact .cons (.intro _ _ _ (whole.trans sameWhole.symm)) (ih others)

/-- What a decoder gives arrives as parts, and the stream of them ends when there are no more. -/
theorem stream_of_gives {δ : Type} {decoder : FormDecoder δ} {boundary : String}
    {chunks : List Bytes} {parts : List FormPart}
    (gives : decoder.Gives (decoder.start boundary chunks false) (parts.map sent))
    (late : Nat → Option Arrival) :
    ∃ arrived, List.Forall₂ IsBuilt parts arrived ∧
      ∀ n ≤ arrived.length,
        decoder.stream boundary chunks false late n = (arrived.map Arrival.part)[n]? := by
  obtain ⟨given, carries, answers⟩ := gives
  have arrives : ∀ n ≤ given.length,
      (decoder.parts.answer (decoder.start boundary chunks false) n).map
        (Arrival.ofDecoded fun reason => .malformed (.multipart reason)) =
          ((given.map FormField.part).map Arrival.part)[n]? := by
    intro n within
    rw [FormDecoder.parts, Source.answer_map, answers n within, List.getElem?_map,
      List.getElem?_map, List.getElem?_map, Option.map_map, Option.map_map, Option.map_map]
    rfl
  refine ⟨given.map FormField.part, ?_, fun n within => ?_⟩
  · have built := List.forall₂_map_right_iff.mp carries
    exact List.forall₂_map_right_iff.mpr (built.flip.imp fun _ _ own => isBuilt_of_carries own)
  · rw [List.length_map] at within
    rw [← arrives n within]
    refine (closesAfter_stream _ decoder.parts late _).alike n fun m earlier noPart => ?_
    have inside : m < given.length := Nat.lt_of_lt_of_le earlier within
    refine noPart given[m].part ?_
    rw [arrives m (Nat.le_of_lt inside), List.getElem?_map, List.getElem?_map,
      List.getElem?_eq_getElem inside]
    rfl

/-- **Decoding undoes encoding.** Whatever decoder conforms to the protocol, and however an encoded
form is cut into chunks, the parts of the form arrive in order, each with its name, its file name,
its content type and its content, and then the stream ends without a failure. What the upload
becomes, all at once or in a loop over the stream, is what the parts built directly become. -/
theorem encoded_form_arrives {δ : Type} {decoder : FormDecoder δ} {room : Nat}
    (conforms : decoder.Conforms room) (enough : 2 ≤ room) (boundary : FormBoundary)
    {parts : List FormPart} {chunks : List Bytes} {epilogue : Bytes}
    (encoded : chunks.flatten = encodedForm boundary parts ++ epilogue)
    (closed : epilogue = [] ∨ lineBreak <+: epilogue)
    (apart : ∀ part ∈ parts, ¬ lineBreak ++ delimiter boundary.text <:+: part.content)
    (late : Nat → Option Arrival) :
    let stream := decoder.stream boundary.text chunks false late
    ∃ arrived, List.Forall₂ IsBuilt parts arrived ∧
      (∀ n ≤ parts.length, stream n = (arrived.map Arrival.part)[n]?) ∧
      ∀ (settings : UploadSettings) (spool : Spool) (direct : List UploadPart),
        List.Forall₂ IsBuilt parts direct →
        (∀ params,
          normalizeUpload settings spool params (arrived.map .part) =
            normalizeUpload settings spool params (direct.map .part)) ∧
        invocationOfUpload settings spool (arrived.map .part) =
          invocationOfUpload settings spool (direct.map .part) ∧
        ∀ intake ending, (Intake.taking settings spool).Drains stream intake ending ↔
          intake.takeAll settings spool (direct.map .part) = ending := by
  intro stream
  have holds : HoldsFields boundary.text room chunks.flatten (parts.map sent) :=
    encoded ▸ holdsFields_encodedForm enough apart closed
  obtain ⟨arrived, built, arrives⟩ := stream_of_gives (conforms boundary chunks _ holds) late
  have count : arrived.length = parts.length := built.length_eq.symm
  refine ⟨arrived, built, fun n within => arrives n (count ▸ within), ?_⟩
  intro settings spool direct others
  have recut := recut_of_isBuilt built others
  have uploads (params : CallParameters) := uploads_recut settings spool params recut
  refine ⟨fun params => (uploads params).1, (uploads .none).2, fun intake ending => ?_⟩
  have gives : ∀ n ≤ (arrived.map Arrival.part).length,
      stream n = (arrived.map Arrival.part)[n]? := by
    rw [List.length_map]
    exact arrives
  rw [← Intake.takeAll_eq_iff_drains settings spool intake gives,
    Intake.takeAll_recut recut intake]

/-! ## A form in pieces -/

def shortBoundary : FormBoundary := ⟨"B", by decide, List.all_eq_true.mp rfl⟩

/-- Its content nearly ends in a delimiter, and its name is the word for a file name. -/
def notePart : FormPart where
  name := ⟨"filename", by decide, List.all_eq_true.mp rfl⟩
  filename := none
  contentType := none
  content := Bytes.ofText "\r\n--A\r"

/-- Its content starts with a delimiter, and its file name holds the word for a name. -/
def filePart : FormPart where
  name := ⟨"file", by decide, List.all_eq_true.mp rfl⟩
  filename := some ⟨"name=a.txt", by decide, List.all_eq_true.mp rfl⟩
  contentType := some ⟨"text".toList, "plain".toList, List.cons_ne_nil _ _, List.cons_ne_nil _ _,
    List.all_eq_true.mp rfl, List.all_eq_true.mp rfl⟩
  content := Bytes.ofText "--B--"

/-- The first delimiter, a content and the second delimiter are each cut in two. -/
def pieces : List Bytes := [
  Bytes.ofText "-",
  Bytes.ofText "-B\r\nContent-Disposition: form-data; name=\"filename\"\r\n\r\n\r\n--",
  Bytes.ofText "A\r\r\n--",
  Bytes.ofText "B\r\nContent-Disposition: form-data; name=\"file\"; filename=\"name=a.txt\"\r\n",
  Bytes.ofText "Content-Type: text/plain\r\n\r\n--B--\r\n--B--\r\n"]

/-- The reader that cuts dispositions at their quotes conforms, and gives both parts. -/
theorem encoded_form_arrives_in_pieces :
    (reader Disposition.quotedAttribute?).Conforms 32 ∧
      pieces.flatten = encodedForm shortBoundary [notePart, filePart] ++ lineBreak ∧
      (∀ part ∈ [notePart, filePart],
        ¬ lineBreak ++ delimiter shortBoundary.text <:+: part.content) ∧
      ∀ late, ∃ note file, notePart.IsBuilt note ∧ filePart.IsBuilt file ∧
        ∀ n ≤ 2, (reader Disposition.quotedAttribute?).stream "B" pieces false late n =
          [Arrival.part note, .part file][n]? := by
  have encoded : pieces.flatten = encodedForm shortBoundary [notePart, filePart] ++ lineBreak := by
    decide +kernel
  have apart : ∀ part ∈ [notePart, filePart],
      ¬ lineBreak ++ delimiter shortBoundary.text <:+: part.content := by
    rw [List.forall_mem_cons, List.forall_mem_singleton]
    decide
  refine ⟨conforms_reader, encoded, apart, fun late => ?_⟩
  obtain ⟨arrived, built, gives, -⟩ := encoded_form_arrives conforms_reader (by decide)
    shortBoundary encoded (.inr List.prefix_rfl) apart late
  cases built with
  | cons note rest =>
      cases rest with
      | cons file rest =>
          cases rest
          exact ⟨_, _, note, file, gives⟩

end FormPart

end ActionGateway
