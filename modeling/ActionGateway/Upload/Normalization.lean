import ActionGateway.Upload.Intake

/-! # Uploads as invocations

An upload becomes one flat set of bindings, or an invocation when its descriptor names an action.
Bindings are layered: header parameters lowest, then query parameters, then the bindings of the
descriptor, then the parts. A later layer writes over an earlier one.
-/

namespace ActionGateway

/-- The bindings of an upload and the files kept for it. -/
structure NormalizedUpload where
  bindings : Bindings
  attachments : List Attachment

namespace Intake

/-- All bindings over the parameters of the call. A descriptor is optional here. -/
def bindingsOver (intake : Intake) (params : CallParameters) : Bindings :=
  let base := match intake.descriptor with
    | none => params.bindings
    | some descriptor =>
      (descriptor.params.bindOnto params.bindings).insertAll descriptor.bindings.entries
  base.insertAll intake.bindings.entries

/-- The invocation that an upload asks for. A timeout of zero is none. -/
def invocation (intake : Intake) : Except Rejection Invocation :=
  match intake.descriptor with
  | none => .error (.malformed .missingDescriptor)
  | some descriptor =>
    match descriptor.action? with
    | none => .error (.malformed .descriptorWithoutAction)
    | some actionId => .ok {
        actionId := actionId
        branchName := none
        params := descriptor.params
        bindings := descriptor.bindings.insertAll intake.bindings.entries
        viewMode := .ofFlag descriptor.viewMode
        substitutionMode := descriptor.substitutionMode.getD .strict
        timeoutMs := TimeoutPolicy.positive descriptor.timeoutMs
        attachments := intake.attachments }

end Intake

/-- **Bindings of an upload**, over the parameters of the call. -/
def normalizeUpload (settings : UploadSettings) (spool : Spool) (params : CallParameters)
    (arrivals : List Arrival) : Outcome NormalizedUpload := do
  Outcome.ofExcept params.checkNamed
  let (intake, ending) := Intake.empty.takeAll settings spool arrivals
  ending
  pure ⟨intake.bindingsOver params, intake.attachments⟩

/-- What taking in an upload as an invocation gives: the invocation, and the hint that was told
first while other parts may still have been on their way. -/
structure UploadedInvocation where
  hint : Option Hint
  invocation : Outcome Invocation

/-- **Invocation of an upload.** -/
def invocationOfUpload (settings : UploadSettings) (spool : Spool) (arrivals : List Arrival) :
    UploadedInvocation :=
  let (intake, ending) := Intake.empty.takeAll settings spool arrivals
  ⟨intake.told.head?, do
    ending
    Outcome.ofExcept intake.invocation⟩

end ActionGateway
