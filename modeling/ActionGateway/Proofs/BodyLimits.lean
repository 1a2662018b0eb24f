import ActionGateway.Proofs.ChunkedBodies

/-!
# Bodies and their limits

A body is read until it ends, fails or stalls, unless it turns out before that to have more bytes
than its limit allows. `BodyEnd` says this of the items of the body, with no running total. It holds
of fields and of files alike, each with its own limit, and what comes after the item that decides
makes no difference.
-/

namespace ActionGateway

/-- **How the reading of a body ends**, given how many bytes it may have. -/
inductive BodyEnd (limit : Nat) (excess : Rejection) : List BodyItem → Outcome Bytes → Prop
  /-- The body ends within its limit. -/
  | complete {chunks : List Bytes} (fits : chunks.flatten.length ≤ limit) :
      BodyEnd limit excess (chunks.map .chunk) (.done chunks.flatten)
  /-- The body fails within its limit. -/
  | failed {chunks : List Bytes} (fits : chunks.flatten.length ≤ limit) (reason : Rejection)
      (rest : List BodyItem) :
      BodyEnd limit excess (chunks.map .chunk ++ .failed reason :: rest) (.rejected reason)
  /-- The body stalls within its limit. -/
  | stalled {chunks : List Bytes} (fits : chunks.flatten.length ≤ limit) (rest : List BodyItem) :
      BodyEnd limit excess (chunks.map .chunk ++ .stall :: rest) .stalled
  /-- The body goes over its limit. -/
  | tooLarge {chunks : List Bytes} (exceeds : limit < chunks.flatten.length)
      (rest : List BodyItem) :
      BodyEnd limit excess (chunks.map .chunk ++ rest) (.rejected excess)

/-- Chunks pass, and only what follows them may be cut off. -/
theorem upToFailure_append (chunks : List Bytes) (rest : List BodyItem) :
    upToFailure (chunks.map .chunk ++ rest) = chunks.map .chunk ++ upToFailure rest := by
  induction chunks with
  | nil => rfl
  | cons chunk others ih => simp only [List.map_cons, List.cons_append, upToFailure, ih]

/-- A body begins with chunks, and then it ends, fails or stalls. -/
theorem exists_chunks (body : List BodyItem) :
    ∃ (chunks : List Bytes) (rest : List BodyItem), body = chunks.map .chunk ++ rest ∧
      (rest = [] ∨ (∃ reason later, rest = .failed reason :: later) ∨
        ∃ later, rest = .stall :: later) := by
  induction body with
  | nil => exact ⟨[], [], rfl, .inl rfl⟩
  | cons item later ih =>
      cases item with
      | chunk bytes =>
          obtain ⟨chunks, rest, rfl, ending⟩ := ih
          exact ⟨bytes :: chunks, rest, rfl, ending⟩
      | failed reason => exact ⟨[], _, rfl, .inr (.inl ⟨reason, later, rfl⟩)⟩
      | stall => exact ⟨[], _, rfl, .inr (.inr ⟨later, rfl⟩)⟩

namespace BodyEnd

variable {limit : Nat} {excess : Rejection} {body : List BodyItem} {outcome : Outcome Bytes}

/-- A body is read to the end that it has. -/
theorem readBody_eq (ending : BodyEnd limit excess body outcome) :
    readBody limit excess 0 (upToFailure body) = outcome := by
  have read (chunks : List Bytes) (rest : List BodyItem) :=
    readBody_append excess (Nat.zero_le limit) chunks (upToFailure rest)
  simp only [Nat.zero_add, ← upToFailure_append] at read
  cases ending with
  | complete fits =>
      rw [upToFailure_chunks, readBody_chunks excess (Nat.zero_le limit), Nat.zero_add,
        if_neg (Nat.not_lt.mpr fits)]
  | failed fits reason rest =>
      rw [read, if_neg (Nat.not_lt.mpr fits)]
      rfl
  | stalled fits rest =>
      rw [read, if_neg (Nat.not_lt.mpr fits)]
      rfl
  | tooLarge exceeds rest => rw [read, if_pos exceeds]

/-- Every body has an end. -/
theorem exists_outcome (limit : Nat) (excess : Rejection) (body : List BodyItem) :
    ∃ outcome, BodyEnd limit excess body outcome := by
  obtain ⟨chunks, rest, rfl, ending⟩ := exists_chunks body
  by_cases exceeds : limit < chunks.flatten.length
  · exact ⟨_, tooLarge exceeds rest⟩
  · have fits : chunks.flatten.length ≤ limit := Nat.not_lt.mp exceeds
    rcases ending with rfl | ⟨reason, later, rfl⟩ | ⟨later, rfl⟩
    · rw [List.append_nil]
      exact ⟨_, complete fits⟩
    · exact ⟨_, failed fits reason later⟩
    · exact ⟨_, stalled fits later⟩

/-- **Reading ends as the body does**, and in no other way. -/
theorem iff_readBody_eq :
    BodyEnd limit excess body outcome ↔ readBody limit excess 0 (upToFailure body) = outcome := by
  refine ⟨readBody_eq, ?_⟩
  rintro rfl
  obtain ⟨other, ending⟩ := exists_outcome limit excess body
  rw [ending.readBody_eq]
  exact ending

end BodyEnd

/-! ## Parts of uploads -/

namespace UploadPart

/-- How the body of a field ends. -/
def FieldEnd (settings : UploadSettings) (name : String) : List BodyItem → Outcome Bytes → Prop :=
  BodyEnd settings.maxFieldBytes (.malformed (.fieldTooLarge name settings.maxFieldBytes))

/-- How the body of a file ends. -/
def FileEnd (settings : UploadSettings) (name : String) : List BodyItem → Outcome Bytes → Prop :=
  BodyEnd settings.maxAttachmentBytes
    (.malformed (.attachmentTooLarge name settings.maxAttachmentBytes))

end UploadPart

namespace Intake

open UploadPart

variable (settings : UploadSettings) (spool : Spool) (name : String)
  (filename contentType : Option String) (body : List BodyItem)

/-- A field is read to the end that its body has, and to no other. -/
theorem readField_eq_iff (outcome : Outcome Bytes) :
    readField settings (.ofBody name filename contentType body) = outcome ↔
      FieldEnd settings name body outcome :=
  BodyEnd.iff_readBody_eq.symm

/-- The file that is kept of a part at some path. -/
def keptFile (path : String) (content : Bytes) : Attachment :=
  ⟨name, filename.getD name, contentType, content.length, path, content⟩

/-- A file is read like a field. What is kept of it is its content, whole, and the size that was
counted is that of its content. -/
theorem readAttachment_eq_iff {path : String} (place : spool settings.spoolDirectory = .ok path)
    (outcome : Outcome Bytes) :
    (readAttachment settings spool (.ofBody name filename contentType body) =
        outcome.andThen fun content => .done (keptFile name filename contentType path content)) ↔
      FileEnd settings name body outcome := by
  obtain ⟨actual, ending⟩ := BodyEnd.exists_outcome settings.maxAttachmentBytes
    (.malformed (.attachmentTooLarge name settings.maxAttachmentBytes)) body
  have read : readAttachment settings spool (.ofBody name filename contentType body) =
      actual.andThen fun content => .done (keptFile name filename contentType path content) := by
    have written : spoolBody settings.maxAttachmentBytes
        (.malformed (.attachmentTooLarge name settings.maxAttachmentBytes)) 0 (upToFailure body) =
          actual.andThen fun content => .done (content, 0 + content.length) := by
      rw [spoolBody_eq, ending.readBody_eq]
    unfold readAttachment
    rw [place]
    refine (congrArg (Outcome.andThen · _) written).trans ?_
    cases actual with
    | done content =>
        simp only [Outcome.andThen, Nat.zero_add]
        rfl
    | rejected reason => rfl
    | stalled => rfl
  have kept (content other : Bytes) : keptFile name filename contentType path content =
      keptFile name filename contentType path other ↔ content = other :=
    ⟨congrArg Attachment.content, congrArg _⟩
  have same : actual = outcome ↔ FileEnd settings name body outcome := by
    rw [FileEnd, BodyEnd.iff_readBody_eq, ending.readBody_eq]
  rw [read, ← same]
  cases actual with
  | done content =>
      cases outcome with
      | done other => simp only [Outcome.andThen, Outcome.done.injEq, kept]
      | rejected reason => simp only [Outcome.andThen, reduceCtorEq]
      | stalled => simp only [Outcome.andThen, reduceCtorEq]
  | rejected reason =>
      cases outcome with
      | done other => simp only [Outcome.andThen, reduceCtorEq]
      | rejected other => simp only [Outcome.andThen, Outcome.rejected.injEq]
      | stalled => simp only [Outcome.andThen, reduceCtorEq]
  | stalled =>
      cases outcome with
      | done other => simp only [Outcome.andThen, reduceCtorEq]
      | rejected reason => simp only [Outcome.andThen, reduceCtorEq]
      | stalled => exact iff_of_true rfl rfl

end Intake

open Intake UploadPart

/-- **Limits of bodies.** The content of a field and the content of a file are read as their bodies
end: whole, if that is within the limit; else for the failure or the excess that comes first, and
whatever is left of the body does not count. A kept file has the content that was read, and its
size. So an upload becomes the same however the bodies of its parts are cut into chunks. -/
theorem reading_ends_with_body (settings : UploadSettings) (spool : Spool) :
    (∀ name filename contentType body outcome,
      readField settings (.ofBody name filename contentType body) = outcome ↔
        FieldEnd settings name body outcome) ∧
    (∀ path, spool settings.spoolDirectory = .ok path →
      ∀ name filename contentType body outcome,
        ((readAttachment settings spool (.ofBody name filename contentType body) =
            outcome.andThen fun content =>
              .done (keptFile name filename contentType path content)) ↔
          FileEnd settings name body outcome) ∧
        ∀ content, (keptFile name filename contentType path content).content = content ∧
          (keptFile name filename contentType path content).size = content.length) ∧
    (∀ (params : CallParameters) (arrivals others : List Arrival),
      List.Forall₂ Arrival.Recut arrivals others →
        normalizeUpload settings spool params arrivals =
            normalizeUpload settings spool params others ∧
          invocationOfUpload settings spool arrivals =
            invocationOfUpload settings spool others) := by
  refine ⟨readField_eq_iff settings, ?_, ?_⟩
  · intro path place name filename contentType body outcome
    exact ⟨readAttachment_eq_iff settings spool name filename contentType body place outcome,
      fun content => ⟨rfl, rfl⟩⟩
  · intro params arrivals others recut
    exact arrivals_recut settings spool params recut

/-- Three bytes are allowed, of fields and of files. -/
def threeBytes : UploadSettings := ⟨3, 3, none⟩

/-- A field that just fits, a file that is one byte too long before it stalls, and a file that
arrives in two ways. -/
theorem reading_ends_with_body_of_three_bytes :
    readField threeBytes (.ofBody "note" none none [.chunk [97, 98], .chunk [], .chunk [99]]) =
        .done [97, 98, 99] ∧
      readAttachment threeBytes (fun _ => .ok "/spool/1")
          (.ofBody "scan" none none [.chunk [97, 98], .chunk [99, 100], .stall]) =
        .rejected (.malformed (.attachmentTooLarge "scan" 3)) ∧
      normalizeUpload threeBytes (fun _ => .ok "/spool/1") ⟨[], []⟩
          [.part (.ofChunks "scan" (some "a") none [[97, 98, 99]])] =
        normalizeUpload threeBytes (fun _ => .ok "/spool/1") ⟨[], []⟩
          [.part (.ofChunks "scan" (some "a") none [[97], [], [98, 99]])] := by
  obtain ⟨fields, files, uploads⟩ := reading_ends_with_body threeBytes fun _ => .ok "/spool/1"
  refine ⟨?_, ?_, ?_⟩
  · rw [fields]
    exact @BodyEnd.complete _ _ [[97, 98], [], [99]] (by decide)
  · refine (files "/spool/1" rfl "scan" none none _ (.rejected _)).1.mpr ?_
    exact @BodyEnd.tooLarge _ _ [[97, 98], [99, 100]] (by decide) [.stall]
  · refine (uploads ⟨[], []⟩ _ _ (.cons (.part ?_) .nil)).1
    exact .intro "scan" (some "a") none rfl

end ActionGateway
