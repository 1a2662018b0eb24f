import ActionGateway.Upload.Normalization
import Mathlib.Data.List.Forall2

/-!
# Taking in uploads

A part is taken in as the descriptor, as the parameter map, as a file or as a value, and
`Intake.Takes` says for each what was read and what becomes of it. What every part preserves the
whole upload preserves. So the descriptor that an intake holds is always an accepted one and what it
tells is all that was told; and the files are the ones that arrived, in the order in which they
arrived.
-/

namespace ActionGateway

namespace Outcome

variable {α β : Type}

/-- A sequence is done when both of its steps are. -/
theorem bind_eq_done_iff {outcome : Outcome α} {next : α → Outcome β} {value : β} :
    outcome >>= next = .done value ↔
      ∃ middle, outcome = .done middle ∧ next middle = .done value := by
  cases outcome with
  | done middle =>
      constructor
      · exact fun ran => ⟨middle, rfl, ran⟩
      · rintro ⟨_, ⟨⟩, ran⟩
        exact ran
  | rejected reason => exact ⟨nofun, nofun⟩
  | stalled => exact ⟨nofun, nofun⟩

/-- The value, if there is one. -/
def toOption : Outcome α → Option α
  | done value => some value
  | rejected _ | stalled => none

/-- An outcome has a value exactly when it is done. -/
theorem toOption_eq_some_iff {outcome : Outcome α} {value : α} :
    outcome.toOption = some value ↔ outcome = .done value := by
  cases outcome with
  | done other => simp only [toOption, Option.some.injEq, done.injEq]
  | rejected reason => exact ⟨nofun, nofun⟩
  | stalled => exact ⟨nofun, nofun⟩

/-- A lifted result is done exactly when it succeeded. -/
theorem ofExcept_eq_done_iff {result : Except Rejection α} {value : α} :
    ofExcept result = .done value ↔ result = .ok value := by
  cases result with
  | ok other => exact ⟨fun same => by cases same; rfl, fun same => by cases same; rfl⟩
  | error reason => exact ⟨nofun, nofun⟩

end Outcome

/-- A file is written like a field is read, and the size that is counted is its length. -/
theorem spoolBody_eq (limit size : Nat) (tooLarge : Rejection) (body : List BodyItem) :
    spoolBody limit tooLarge size body =
      (readBody limit tooLarge size body).andThen fun content =>
        .done (content, size + content.length) := by
  induction body generalizing size with
  | nil => rfl
  | cons item rest ih =>
      cases item with
      | failed reason => rfl
      | stall => rfl
      | chunk bytes =>
          rw [spoolBody, readBody]
          by_cases large : limit < size + bytes.length
          · rw [if_pos large, if_pos large]
            rfl
          · rw [if_neg large, if_neg large, ih]
            cases readBody limit tooLarge (size + bytes.length) rest with
            | done after =>
                refine congrArg (fun whole => Outcome.done (bytes ++ after, whole)) ?_
                rw [List.length_append, Nat.add_assoc]
            | rejected reason => rfl
            | stalled => rfl

namespace UploadPart

/-- The part is kept as a file, being neither the descriptor nor the parameter map. -/
def IsFilePart (part : UploadPart) : Prop :=
  part.name ≠ descriptorName ∧ part.name ≠ parameterMapName ∧ part.isAttachment = true
  deriving Decidable

end UploadPart

/-- The file among what arrives, if it is one. -/
def Arrival.file? : Arrival → Option UploadPart
  | .part arrived => if arrived.IsFilePart then some arrived else none
  | .failed _ => none

namespace Intake

variable {settings : UploadSettings} {spool : Spool} {intake next : Intake} {part : UploadPart}

/-- **What taking in a part does.** -/
inductive Takes (settings : UploadSettings) (spool : Spool) (intake : Intake) (part : UploadPart) :
    Intake → Prop where
  | descriptor {descriptor : Descriptor} {hint : Hint} :
      part.name = descriptorName →
      intake.descriptor = none →
      readJson settings Descriptor.decoder part = .done descriptor →
      descriptor.hint = .ok hint →
      Takes settings spool intake part
        { intake with descriptor := some descriptor, told := intake.told ++ [hint] }
  | parameterMap {parameterMap : OrderedMap String} :
      part.name = parameterMapName →
      readJson settings (.ordered .text) part = .done parameterMap →
      Takes settings spool intake part { intake with parameterMap := parameterMap }
  | file {attachment : Attachment} :
      part.name ≠ "" →
      part.IsFilePart →
      readAttachment settings spool part = .done attachment →
      Takes settings spool intake part { intake with
        values := intake.values.insert attachment.partName attachment.json
        attachments := intake.attachments ++ [attachment] }
  | value {value : Json} :
      part.name ≠ "" →
      part.name ≠ descriptorName →
      part.name ≠ parameterMapName →
      part.isAttachment = false →
      readValue settings part = .done value →
      Takes settings spool intake part
        { intake with values := intake.values.insert part.name value }

/-- Taking the descriptor is taking a part. -/
theorem takes_of_takeDescriptor (named : part.name = descriptorName)
    (taken : intake.takeDescriptor settings part = .done next) :
    Takes settings spool intake part next := by
  unfold takeDescriptor at taken
  cases first : intake.descriptor with
  | some earlier =>
      rw [first] at taken
      exact nomatch taken
  | none =>
      rw [first] at taken
      obtain ⟨descriptor, read, taken⟩ := Outcome.bind_eq_done_iff.mp taken
      obtain ⟨hint, told, taken⟩ := Outcome.bind_eq_done_iff.mp taken
      cases taken
      exact .descriptor named first read (Outcome.ofExcept_eq_done_iff.mp told)

/-- **A part that is taken in** is taken in as one of the four. -/
theorem takes_of_take (taken : intake.take settings spool part = .done next) :
    Takes settings spool intake part next := by
  unfold take at taken
  by_cases unnamed : part.name.isEmpty = true
  · rw [if_pos unnamed] at taken
    exact nomatch taken
  rw [if_neg unnamed] at taken
  have named : part.name ≠ "" := fun empty => unnamed (by rw [empty]; rfl)
  by_cases describes : part.name = descriptorName
  · rw [if_pos describes] at taken
    exact takes_of_takeDescriptor describes taken
  rw [if_neg describes] at taken
  by_cases maps : part.name = parameterMapName
  · rw [if_pos maps] at taken
    obtain ⟨parameterMap, read, taken⟩ := Outcome.bind_eq_done_iff.mp taken
    cases taken
    exact .parameterMap maps read
  rw [if_neg maps] at taken
  by_cases file : part.isAttachment = true
  · rw [if_pos file] at taken
    obtain ⟨attachment, read, taken⟩ := Outcome.bind_eq_done_iff.mp taken
    cases taken
    exact .file named ⟨describes, maps, file⟩ read
  · rw [if_neg file] at taken
    obtain ⟨value, read, taken⟩ := Outcome.bind_eq_done_iff.mp taken
    cases taken
    exact .value named describes maps (Bool.eq_false_iff.mpr file) read

/-! ## Whole uploads -/

/-- Once a part is taken, the rest is taken from where it leaves the intake. -/
theorem takeAll_cons_of_take {rest : List Arrival}
    (taken : intake.take settings spool part = .done next) :
    intake.takeAll settings spool (.part part :: rest) = next.takeAll settings spool rest := by
  rw [takeAll, taken]

/-- A whole upload is taken in by taking in its first part and then the others. -/
theorem takeAll_cons_eq_done_iff {arrival : Arrival} {rest : List Arrival} {final : Intake} :
    intake.takeAll settings spool (arrival :: rest) = (final, .done ()) ↔
      ∃ part next, arrival = .part part ∧ intake.take settings spool part = .done next ∧
        next.takeAll settings spool rest = (final, .done ()) := by
  constructor
  · intro taken
    cases arrival with
    | failed reason => cases congrArg Prod.snd taken
    | part part =>
        cases first : intake.take settings spool part with
        | done next => exact ⟨part, next, rfl, first, (takeAll_cons_of_take first).symm.trans taken⟩
        | rejected reason =>
            rw [takeAll, first] at taken
            cases congrArg Prod.snd taken
        | stalled =>
            rw [takeAll, first] at taken
            cases congrArg Prod.snd taken
  · rintro ⟨part, next, rfl, first, taken⟩
    exact (takeAll_cons_of_take first).trans taken

/-- **What every part preserves the whole upload preserves**, however the upload ends. -/
theorem takeAll_induction {Holds : Intake → Prop}
    (step : ∀ intake part next, Takes settings spool intake part next → Holds intake → Holds next)
    (start : Holds intake) (arrivals : List Arrival) :
    Holds (intake.takeAll settings spool arrivals).1 := by
  induction arrivals generalizing intake with
  | nil => exact start
  | cons arrival rest ih =>
      cases arrival with
      | failed reason => exact start
      | part part =>
          rw [takeAll]
          cases taken : intake.take settings spool part with
          | done next => exact ih (step intake part next (takes_of_take taken) start)
          | rejected reason => exact start
          | stalled => exact start

/-- **Arrivals that are taken in alike**, whatever arrived before them. -/
inductive TakenAlike (settings : UploadSettings) (spool : Spool) : Arrival → Arrival → Prop where
  | part {part other : UploadPart}
      (same : ∀ intake : Intake, intake.take settings spool part =
        intake.take settings spool other) :
      TakenAlike settings spool (.part part) (.part other)
  | failed (reason : Rejection) : TakenAlike settings spool (.failed reason) (.failed reason)

/-- Arrivals taken alike one by one are taken alike as a whole. -/
theorem takeAll_of_takenAlike {arrivals others : List Arrival}
    (alike : List.Forall₂ (TakenAlike settings spool) arrivals others) (intake : Intake) :
    intake.takeAll settings spool arrivals = intake.takeAll settings spool others := by
  induction alike generalizing intake with
  | nil => rfl
  | cons own _ ih =>
      cases own with
      | part same => simp only [takeAll, same intake, ih]
      | failed reason => rfl

/-- Uploads whose parts are taken in alike become the same. -/
theorem uploads_of_takenAlike (params : CallParameters) {arrivals others : List Arrival}
    (alike : List.Forall₂ (TakenAlike settings spool) arrivals others) :
    normalizeUpload settings spool params arrivals =
        normalizeUpload settings spool params others ∧
      invocationOfUpload settings spool arrivals = invocationOfUpload settings spool others := by
  have same := takeAll_of_takenAlike alike .empty
  rw [normalizeUpload, normalizeUpload, invocationOfUpload, invocationOfUpload, same]
  exact ⟨rfl, rfl⟩

/-- The descriptor that was taken in was accepted, and what it tells is all that was told. -/
structure DescriptorAccepted (intake : Intake) : Prop where
  undescribed : intake.descriptor = none → intake.told = []
  described : ∀ descriptor, intake.descriptor = some descriptor →
    ∃ hint, descriptor.hint = .ok hint ∧ intake.told = [hint]

/-- An intake that has taken nothing holds no descriptor and has told nothing. -/
theorem descriptorAccepted_empty : empty.DescriptorAccepted :=
  ⟨fun _ => rfl, nofun⟩

/-- Whatever is taken in, the descriptor stays an accepted one. -/
theorem DescriptorAccepted.takeAll (accepted : intake.DescriptorAccepted)
    (arrivals : List Arrival) :
    (intake.takeAll settings spool arrivals).1.DescriptorAccepted := by
  refine takeAll_induction ?_ accepted arrivals
  intro intake part next takes accepted
  cases takes with
  | descriptor _ first _ told =>
      refine ⟨nofun, fun descriptor held => ?_⟩
      cases held
      refine ⟨_, told, ?_⟩
      rw [accepted.undescribed first]
      rfl
  | parameterMap _ _ => exact ⟨accepted.undescribed, accepted.described⟩
  | file _ _ _ => exact ⟨accepted.undescribed, accepted.described⟩
  | value _ _ _ _ _ => exact ⟨accepted.undescribed, accepted.described⟩

/-- **Files arrive in order.** When all parts were taken in, the files among them were added one
after the other. -/
theorem attachments_takeAll {arrivals : List Arrival} {final : Intake}
    (taken : intake.takeAll settings spool arrivals = (final, .done ())) :
    ∃ added, final.attachments = intake.attachments ++ added ∧
      List.Forall₂ (fun part attachment => readAttachment settings spool part = .done attachment)
        (arrivals.filterMap Arrival.file?) added := by
  induction arrivals generalizing intake with
  | nil =>
      cases taken
      exact ⟨[], (List.append_nil _).symm, .nil⟩
  | cons arrival rest ih =>
      obtain ⟨part, next, rfl, first, taken⟩ := takeAll_cons_eq_done_iff.mp taken
      obtain ⟨added, attachments, read⟩ := ih taken
      have noFile (kept : next.attachments = intake.attachments)
          (other : ¬ part.IsFilePart) :
          ∃ added, final.attachments = intake.attachments ++ added ∧
            List.Forall₂
              (fun part attachment => readAttachment settings spool part = .done attachment)
              ((Arrival.part part :: rest).filterMap Arrival.file?) added := by
        have absent : (Arrival.part part).file? = none := if_neg other
        rw [List.filterMap_cons_none absent, ← kept]
        exact ⟨added, attachments, read⟩
      cases takes_of_take first with
      | descriptor named _ _ _ => exact noFile rfl fun file => file.1 named
      | parameterMap named _ => exact noFile rfl fun file => file.2.1 named
      | value _ _ _ value _ =>
          exact noFile rfl fun file => Bool.false_ne_true (value.symm.trans file.2.2)
      | file _ file own =>
          have present : (Arrival.part part).file? = some part := if_pos file
          rw [List.filterMap_cons_some present]
          refine ⟨_ :: added, ?_, .cons own read⟩
          rw [attachments, List.append_assoc]
          rfl

end Intake

end ActionGateway
