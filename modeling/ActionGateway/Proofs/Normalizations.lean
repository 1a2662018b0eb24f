import ActionGateway.Proofs.BindingLayers

/-!
# Two ways to normalize an upload

An upload can be normalized to one set of bindings, over the parameters of a call, or to an
invocation, which keeps its parameters and its bindings apart until they are merged. Over no
parameters the two give the same bindings, names in the same order, and the same attachments. The
invocation needs a descriptor; everything else that stops one of them stops the other.
-/

namespace ActionGateway

section Uploads

variable {settings : UploadSettings} {spool : Spool} {arrivals : List Arrival}

namespace Intake

variable {intake final : Intake}

/-- What arrives after a part of the upload that was taken in goes on from there. -/
theorem takeAll_append {before : List Arrival}
    (taken : intake.takeAll settings spool before = (final, .done ())) (after : List Arrival) :
    intake.takeAll settings spool (before ++ after) = final.takeAll settings spool after := by
  induction before generalizing intake with
  | nil =>
      cases taken
      rfl
  | cons arrival rest ih =>
      obtain ⟨part, next, rfl, first, taken⟩ := takeAll_cons_eq_done_iff.mp taken
      exact (takeAll_cons_of_take first).trans (ih taken)

/-- An arrival that is refused ends the intake, whatever comes after it. -/
theorem takeAll_cons_of_rejected {arrival : Arrival} {reason : Rejection}
    (refused : (intake.takeAll settings spool [arrival]).2 = .rejected reason)
    (after : List Arrival) :
    (intake.takeAll settings spool (arrival :: after)).2 = .rejected reason := by
  cases arrival with
  | failed cause => exact refused
  | part part =>
      rw [takeAll] at refused ⊢
      cases first : intake.take settings spool part with
      | rejected cause =>
          rw [first] at refused
          exact refused
      | stalled =>
          rw [first] at refused
          cases refused
      | done next =>
          rw [first] at refused
          cases refused

/-- A descriptor that arrived was taken in, and it was accepted. -/
theorem exists_invocation_of_takeAll
    (taken : empty.takeAll settings spool arrivals = (final, .done ())) {part : UploadPart}
    (member : .part part ∈ arrivals) (named : part.name = descriptorName) :
    ∃ invocation, final.invocation = .ok invocation := by
  obtain ⟨contents, brought, rfl, descriptors⟩ := contents_of_takeAll taken
  obtain ⟨content, present, read⟩ := brought.exists_content member
  obtain ⟨descriptor, hint, rfl, told⟩ := content_of_named_descriptor named read
  have listed : descriptor ∈ (contents.foldl add empty).descriptor.toList := by
    rw [descriptors]
    exact List.mem_filterMap.mpr ⟨_, present, rfl⟩
  have held := Option.mem_toList.mp listed
  have action := (Descriptor.hint_eq_ok_iff.mp told).1
  exact ⟨_, invocation_eq_ok_iff.mpr ⟨descriptor, hint.actionId, held, action, rfl⟩⟩

end Intake

section Endings

variable {intake : Intake} {reason : Rejection}

/-- An upload that is taken in normalizes to what its intake holds. -/
theorem normalizeUpload_of_takeAll
    (taken : Intake.empty.takeAll settings spool arrivals = (intake, .done ())) :
    normalizeUpload settings spool .none arrivals =
      .done ⟨intake.bindingsOver .none, intake.attachments⟩ := by
  unfold normalizeUpload
  rw [taken]
  rfl

/-- One that is refused normalizes to the refusal. -/
theorem normalizeUpload_of_refused
    (refused : Intake.empty.takeAll settings spool arrivals = (intake, .rejected reason)) :
    normalizeUpload settings spool .none arrivals = .rejected reason := by
  unfold normalizeUpload
  rw [refused]
  rfl

/-- An upload that is taken in invokes what its intake asks for. -/
theorem invocationOfUpload_of_takeAll
    (taken : Intake.empty.takeAll settings spool arrivals = (intake, .done ())) :
    (invocationOfUpload settings spool arrivals).invocation = .ofExcept intake.invocation := by
  unfold invocationOfUpload
  rw [taken]
  rfl

/-- One that is refused invokes nothing. -/
theorem invocationOfUpload_of_refused
    (refused : Intake.empty.takeAll settings spool arrivals = (intake, .rejected reason)) :
    (invocationOfUpload settings spool arrivals).invocation = .rejected reason := by
  unfold invocationOfUpload
  rw [refused]
  rfl

end Endings

end Uploads

/-- **The two normalizations agree.** An upload with an invocation is normalized to the bindings and
the attachments of that invocation. An upload that is normalized has an invocation if a descriptor
arrived. An arrival that is refused, after all before it were taken in, is the answer of both. -/
theorem normalizations_agree (settings : UploadSettings) (spool : Spool) (arrivals : List Arrival) :
    (∀ invocation, (invocationOfUpload settings spool arrivals).invocation = .done invocation →
      normalizeUpload settings spool .none arrivals =
        .done ⟨invocation.mergedBindings, invocation.attachments⟩) ∧
    (∀ normalized, normalizeUpload settings spool .none arrivals = .done normalized →
      ∀ part, .part part ∈ arrivals → part.name = descriptorName →
        ∃ invocation, (invocationOfUpload settings spool arrivals).invocation = .done invocation) ∧
    (∀ before arrival after intake reason, arrivals = before ++ arrival :: after →
      Intake.empty.takeAll settings spool before = (intake, .done ()) →
      (intake.takeAll settings spool [arrival]).2 = .rejected reason →
        normalizeUpload settings spool .none arrivals = .rejected reason ∧
        (invocationOfUpload settings spool arrivals).invocation = .rejected reason) := by
  refine ⟨fun invocation asked => ?_, fun normalized accepted part member named => ?_, ?_⟩
  · obtain ⟨intake, taken, made⟩ := takeAll_of_invocationOfUpload asked
    rw [normalizeUpload_of_takeAll taken, ← Intake.mergedBindings_of_invocation made]
    obtain ⟨descriptor, actionId, -, -, rfl⟩ := Intake.invocation_eq_ok_iff.mp made
    rfl
  · obtain ⟨intake, taken, -, -⟩ := takeAll_of_normalizeUpload accepted
    obtain ⟨invocation, made⟩ := Intake.exists_invocation_of_takeAll taken member named
    exact ⟨invocation, by rw [invocationOfUpload_of_takeAll taken, made]; rfl⟩
  · rintro before arrival after intake reason rfl taken refused
    have ended : (Intake.empty.takeAll settings spool (before ++ arrival :: after)).2 =
        .rejected reason := by
      rw [Intake.takeAll_append taken]
      exact Intake.takeAll_cons_of_rejected refused after
    exact ⟨normalizeUpload_of_refused (Prod.ext rfl ended),
      invocationOfUpload_of_refused (Prod.ext rfl ended)⟩

end ActionGateway
