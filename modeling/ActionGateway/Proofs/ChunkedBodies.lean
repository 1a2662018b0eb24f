import ActionGateway.Proofs.Intakes

/-!
# Bodies in chunks

How the body of a part is cut into chunks makes no difference: its content is read up to the same
limit, and an upload of such parts becomes the same bindings and the same invocation.
-/

namespace ActionGateway

/-- Chunks hold no failure. -/
theorem upToFailure_chunks (chunks : List Bytes) :
    upToFailure (chunks.map .chunk) = chunks.map .chunk := by
  induction chunks with
  | nil => rfl
  | cons chunk rest ih => simp only [List.map_cons, upToFailure, ih]

/-- Chunks are read as a whole: they are too long, or what follows is read after as many bytes. The
induction is on the chunks; it carries that those read so far have not been too long. -/
theorem readBody_append {limit total : Nat} (tooLarge : Rejection) (room : total ≤ limit)
    (chunks : List Bytes) (rest : List BodyItem) :
    readBody limit tooLarge total (chunks.map .chunk ++ rest) =
      if limit < total + chunks.flatten.length then .rejected tooLarge
      else (readBody limit tooLarge (total + chunks.flatten.length) rest).andThen fun after =>
        .done (chunks.flatten ++ after) := by
  induction chunks generalizing total with
  | nil =>
      have fits : ¬ limit < total + ([] : List Bytes).flatten.length := Nat.not_lt.mpr room
      rw [if_neg fits]
      change readBody limit tooLarge total rest = (readBody limit tooLarge total rest).andThen .done
      cases readBody limit tooLarge total rest with
      | done after => rfl
      | rejected reason => rfl
      | stalled => rfl
  | cons chunk others ih =>
      rw [List.map_cons, List.cons_append, readBody, List.flatten_cons, List.length_append,
        ← Nat.add_assoc]
      by_cases large : limit < total + chunk.length
      · rw [if_pos large, if_pos (Nat.lt_of_lt_of_le large (Nat.le_add_right _ _))]
      · rw [if_neg large, ih (Nat.le_of_not_lt large)]
        split
        · rfl
        · cases readBody limit tooLarge (total + chunk.length + others.flatten.length) rest with
          | done after => exact congrArg Outcome.done (List.append_assoc _ _ _).symm
          | rejected reason => rfl
          | stalled => rfl

/-- What counts for a body in chunks is how long it is as a whole. -/
theorem readBody_chunks {limit total : Nat} (tooLarge : Rejection) (room : total ≤ limit)
    (chunks : List Bytes) :
    readBody limit tooLarge total (chunks.map .chunk) =
      if limit < total + chunks.flatten.length then .rejected tooLarge
      else .done chunks.flatten := by
  have read := readBody_append tooLarge room chunks []
  rw [List.append_nil] at read
  simp only [read, readBody, Outcome.andThen, List.append_nil]

namespace UploadPart

/-- A part whose body arrives in the given chunks. -/
def ofChunks (name : String) (filename contentType : Option String) (chunks : List Bytes) :
    UploadPart :=
  .ofBody name filename contentType (chunks.map .chunk)

/-- The parts are the same, except that their bodies may be cut in different places. -/
inductive Recut : UploadPart → UploadPart → Prop
  | intro (name : String) (filename contentType : Option String) {chunks others : List Bytes}
      (same : chunks.flatten = others.flatten) :
      Recut (.ofChunks name filename contentType chunks)
        (.ofChunks name filename contentType others)

namespace Recut

variable {part other : UploadPart} (recut : Recut part other)

include recut

theorem name_eq : part.name = other.name := by
  cases recut
  rfl

theorem filename_eq : part.filename = other.filename := by
  cases recut
  rfl

theorem contentType_eq : part.contentType = other.contentType := by
  cases recut
  rfl

/-- The kind of content is read off the content type. -/
theorem kind_eq : part.kind = other.kind := by
  rw [kind, kind, recut.contentType_eq]

/-- Whether a part is attached is read off its file name and its content type. -/
theorem isAttachment_eq : part.isAttachment = other.isAttachment := by
  rw [isAttachment, isAttachment, isFile, isFile, recut.filename_eq, recut.kind_eq]

/-- Bodies that are cut differently are read alike. -/
theorem readBody_eq (limit : Nat) (tooLarge : Rejection) :
    readBody limit tooLarge 0 part.body = readBody limit tooLarge 0 other.body := by
  cases recut with
  | intro name filename contentType same =>
      simp only [ofChunks, ofBody, upToFailure_chunks, readBody_chunks tooLarge (Nat.zero_le limit),
        same]

end Recut

end UploadPart

/-- The same arrives, except that the body of a part may be cut in different places. -/
inductive Arrival.Recut : Arrival → Arrival → Prop
  | part {part other : UploadPart} (recut : part.Recut other) : Recut (.part part) (.part other)
  | failed (reason : Rejection) : Recut (.failed reason) (.failed reason)

/-- Parts that are cut differently arrive so. -/
theorem Arrival.recut_of_parts {parts others : List UploadPart}
    (recut : List.Forall₂ UploadPart.Recut parts others) :
    List.Forall₂ Arrival.Recut (parts.map .part) (others.map .part) := by
  rw [List.forall₂_map_left_iff, List.forall₂_map_right_iff]
  exact recut.imp fun _ _ same => .part same

namespace Intake

variable {settings : UploadSettings} {spool : Spool} {part other : UploadPart}

/-- A field within its limit is read whole. -/
theorem readField_ofChunks (name : String) (filename contentType : Option String)
    {chunks : List Bytes} (fits : chunks.flatten.length ≤ settings.maxFieldBytes) :
    readField settings (.ofChunks name filename contentType chunks) = .done chunks.flatten := by
  rw [readField, UploadPart.ofChunks, UploadPart.ofBody, upToFailure_chunks,
    readBody_chunks _ (Nat.zero_le _), Nat.zero_add, if_neg (Nat.not_lt.mpr fits)]

/-- Fields that are cut differently are read alike. -/
theorem readField_recut (recut : part.Recut other) :
    readField settings part = readField settings other := by
  rw [readField, readField, recut.readBody_eq, recut.name_eq]

/-- JSON that is cut differently is read alike. -/
theorem readJson_recut {α : Type} (decode : Json.Decoder α) (recut : part.Recut other) :
    readJson settings decode part = readJson settings decode other := by
  rw [readJson, readJson, readField_recut recut, recut.name_eq]

/-- Values that are cut differently are read alike. -/
theorem readValue_recut (recut : part.Recut other) :
    readValue settings part = readValue settings other := by
  rw [readValue, readValue, readField_recut recut, recut.kind_eq, recut.name_eq]

/-- Attachments that are cut differently are read alike, size and all. -/
theorem readAttachment_recut (recut : part.Recut other) :
    readAttachment settings spool part = readAttachment settings spool other := by
  rw [readAttachment, readAttachment, spoolBody_eq, spoolBody_eq, recut.readBody_eq,
    recut.name_eq, recut.filename_eq, recut.contentType_eq]

/-- Parts that are cut differently are taken in alike. -/
theorem take_recut (intake : Intake) (recut : part.Recut other) :
    intake.take settings spool part = intake.take settings spool other := by
  simp only [take, takeDescriptor, takeParameterMap, takeAttachment, takeValue,
    readJson_recut _ recut, readValue_recut recut, readAttachment_recut recut, recut.name_eq,
    recut.isAttachment_eq]

/-- What arrives cut differently is taken in alike. -/
theorem takenAlike_of_recut {arrival other : Arrival} (recut : arrival.Recut other) :
    TakenAlike settings spool arrival other := by
  cases recut with
  | part recut => exact .part fun intake => take_recut intake recut
  | failed reason => exact .failed reason

/-- Parts that are cut differently are taken in alike. -/
theorem takeAll_recut {parts others : List UploadPart}
    (recut : List.Forall₂ UploadPart.Recut parts others) (intake : Intake) :
    intake.takeAll settings spool (parts.map .part) =
      intake.takeAll settings spool (others.map .part) :=
  takeAll_of_takenAlike ((Arrival.recut_of_parts recut).imp fun _ _ => takenAlike_of_recut) intake

end Intake

section Uploads

variable (settings : UploadSettings) (spool : Spool) (params : CallParameters)

/-- **Uploads that are cut differently** become the same. -/
theorem arrivals_recut {arrivals others : List Arrival}
    (recut : List.Forall₂ Arrival.Recut arrivals others) :
    normalizeUpload settings spool params arrivals =
        normalizeUpload settings spool params others ∧
      invocationOfUpload settings spool arrivals = invocationOfUpload settings spool others := by
  apply Intake.uploads_of_takenAlike
  exact recut.imp fun _ _ own => Intake.takenAlike_of_recut own

/-- Uploads of parts that are cut differently become the same. -/
theorem uploads_recut {parts others : List UploadPart}
    (recut : List.Forall₂ UploadPart.Recut parts others) :
    normalizeUpload settings spool params (parts.map .part) =
        normalizeUpload settings spool params (others.map .part) ∧
      invocationOfUpload settings spool (parts.map .part) =
        invocationOfUpload settings spool (others.map .part) :=
  arrivals_recut settings spool params (Arrival.recut_of_parts recut)

end Uploads

end ActionGateway
