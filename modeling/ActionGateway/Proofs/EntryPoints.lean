import ActionGateway.Execution.Gateway
import ActionGateway.Proofs.ContextKeys
import ActionGateway.Proofs.Intakes

/-!
# Uploads run as the invocations they ask for

The hint that starts the resolution of an upload comes from its descriptor, the invocation from the
whole of it. Wherever there is an invocation there was a hint, and the two ask for the same key. So
an upload is answered as its invocation would be, whatever running an executor does.
-/

namespace ActionGateway

/-- Parameters that all have names pass the check for names. -/
theorem CallParameters.checkNamed_eq_ok {parameters : CallParameters}
    (named : parameters.hasUnnamed = false) : parameters.checkNamed = .ok () := by
  rw [checkNamed, named]
  rfl

namespace Descriptor

variable {descriptor : Descriptor} {hint : Hint}

/-- What a descriptor tells when it is accepted. -/
theorem hint_eq_ok_iff :
    descriptor.hint = .ok hint ↔
      descriptor.action? = some hint.actionId ∧
        descriptor.params.hasUnnamed = false ∧ .ofFlag descriptor.viewMode = hint.viewMode := by
  unfold Descriptor.hint
  cases named : descriptor.action? with
  | none => simp only [reduceCtorEq, false_and]
  | some actionId =>
      cases descriptor.params.hasUnnamed with
      | true => simp only [↓reduceIte, reduceCtorEq, Bool.true_eq_false, false_and, and_false]
      | false =>
          obtain ⟨hinted, side⟩ := hint
          simp only [Bool.false_eq_true, ↓reduceIte, Except.ok.injEq, Hint.mk.injEq,
            Option.some.injEq, true_and]

end Descriptor

namespace Intake

variable {intake : Intake} {invocation : Invocation}

/-- What a descriptor asks for when it names an action, with all that was taken in beside it. -/
def invocationOf (intake : Intake) (descriptor : Descriptor) (actionId : String) : Invocation where
  actionId := actionId
  branchName := none
  params := descriptor.params
  bindings := descriptor.bindings.insertAll intake.bindings.entries
  viewMode := .ofFlag descriptor.viewMode
  substitutionMode := descriptor.substitutionMode.getD .strict
  timeoutMs := TimeoutPolicy.positive descriptor.timeoutMs
  attachments := intake.attachments

/-- **What an intake asks for** is told by its descriptor: there is one, and it names an action. -/
theorem invocation_eq_ok_iff :
    intake.invocation = .ok invocation ↔
      ∃ descriptor actionId, intake.descriptor = some descriptor ∧
        descriptor.action? = some actionId ∧
        intake.invocationOf descriptor actionId = invocation := by
  unfold Intake.invocation
  cases held : intake.descriptor with
  | none => simp only [reduceCtorEq, false_and, exists_false]
  | some descriptor =>
      cases named : descriptor.action? with
      | none => simp [named]
      | some actionId => simp [named, invocationOf]

/-- An accepted descriptor told beforehand what the invocation asks for. -/
theorem told_of_invocation (accepted : intake.DescriptorAccepted)
    (asked : intake.invocation = .ok invocation) :
    intake.told = [⟨invocation.actionId, invocation.viewMode⟩] ∧
      invocation.params.checkNamed = .ok () ∧ invocation.branchName = none := by
  obtain ⟨descriptor, actionId, held, action, rfl⟩ := invocation_eq_ok_iff.mp asked
  obtain ⟨hint, accepts, told⟩ := accepted.described descriptor held
  obtain ⟨hinted, named, side⟩ := Descriptor.hint_eq_ok_iff.mp accepts
  have sameAction : actionId = hint.actionId := Option.some.inj (action.symm.trans hinted)
  refine ⟨?_, CallParameters.checkNamed_eq_ok named, rfl⟩
  rw [told, sameAction, invocationOf, side]

end Intake

section Uploads

variable {settings : UploadSettings} {spool : Spool} {arrivals : List Arrival}
  {invocation : Invocation}

/-- An upload that asks for an invocation was taken in as a whole. -/
theorem takeAll_of_invocationOfUpload
    (asked : (invocationOfUpload settings spool arrivals).invocation = .done invocation) :
    ∃ intake, Intake.empty.takeAll settings spool arrivals = (intake, .done ()) ∧
      intake.invocation = .ok invocation := by
  obtain ⟨⟨⟩, ended, made⟩ := Outcome.bind_eq_done_iff.mp asked
  exact ⟨_, Prod.ext rfl ended, Outcome.ofExcept_eq_done_iff.mp made⟩

/-- **No invocation without a hint.** The descriptor of an upload told the action and the side that
its invocation asks for, and the branch is left to the caller. -/
theorem hint_of_invocationOfUpload
    (asked : (invocationOfUpload settings spool arrivals).invocation = .done invocation) :
    (invocationOfUpload settings spool arrivals).hint =
        some ⟨invocation.actionId, invocation.viewMode⟩ ∧
      invocation.params.checkNamed = .ok () ∧ invocation.branchName = none := by
  obtain ⟨intake, taken, made⟩ := takeAll_of_invocationOfUpload asked
  have accepted : (Intake.empty.takeAll settings spool arrivals).1.DescriptorAccepted :=
    Intake.descriptorAccepted_empty.takeAll arrivals
  rw [taken] at accepted
  obtain ⟨told, rest⟩ := Intake.told_of_invocation accepted made
  refine ⟨?_, rest⟩
  rw [invocationOfUpload, taken]
  exact congrArg List.head? told

/-- **Files of an upload.** The attachments of its invocation are its files, in the order in which
they arrived. -/
theorem attachments_of_invocationOfUpload
    (asked : (invocationOfUpload settings spool arrivals).invocation = .done invocation) :
    List.Forall₂ (fun part attachment =>
      Intake.readAttachment settings spool part = .done attachment)
      (arrivals.filterMap Arrival.file?) invocation.attachments := by
  obtain ⟨intake, taken, made⟩ := takeAll_of_invocationOfUpload asked
  obtain ⟨added, attachments, files⟩ := Intake.attachments_takeAll taken
  obtain ⟨descriptor, actionId, -, -, rfl⟩ := Intake.invocation_eq_ok_iff.mp made
  rw [Intake.invocationOf, attachments]
  exact files

end Uploads

namespace Gateway

variable (gateway : Gateway) (surroundings : Surroundings) (cache : ContextCache)
  (arrivals : List Arrival) (branch : Option String) (environmentId : String)

section Effects

variable {m : Type → Type} [Monad m] (runner : ExecutorRunner m)

/-- An upload that cannot be taken in is answered without running anything, whatever its context
would be. -/
theorem executeUploadWith_of_rejected {reason : Rejection}
    (refused : (invocationOfUpload gateway.settings.upload surroundings.spool arrivals).invocation =
      .rejected reason) :
    gateway.executeUploadWith runner surroundings cache arrivals branch environmentId =
      pure (.rejected reason, (gateway.resolveHint surroundings cache
        (invocationOfUpload gateway.settings.upload surroundings.spool arrivals).hint branch
        environmentId).2) := by
  unfold executeUploadWith
  simp only [refused]

/-- An upload that waits for ever has its hint resolved and runs nothing. -/
theorem executeUploadWith_of_stalled
    (waits : (invocationOfUpload gateway.settings.upload surroundings.spool arrivals).invocation =
      .stalled) :
    gateway.executeUploadWith runner surroundings cache arrivals branch environmentId =
      pure (.stalled, (gateway.resolveHint surroundings cache
        (invocationOfUpload gateway.settings.upload surroundings.spool arrivals).hint branch
        environmentId).2) := by
  unfold executeUploadWith
  simp only [waits]

/-- **An upload is executed as its invocation on the branch of the call.** -/
theorem executeUploadWith_of_done [LawfulMonad m] {invocation : Invocation}
    (asked : (invocationOfUpload gateway.settings.upload surroundings.spool arrivals).invocation =
      .done invocation) :
    gateway.executeUploadWith runner surroundings cache arrivals branch environmentId =
      (do
        let answer ← gateway.executeWith runner surroundings cache
          { invocation with branchName := branch } environmentId
        pure (.ofExcept answer.1, answer.2)) := by
  obtain ⟨told, named, unbranched⟩ := hint_of_invocationOfUpload asked
  have late : gateway.resolve surroundings cache invocation.actionId (branch.bind Text.nonBlank)
        environmentId invocation.viewMode =
      gateway.resolve surroundings cache invocation.actionId branch environmentId
        invocation.viewMode := by
    rw [resolve, resolve, ContextKey.ofCall_nonBlank]
  have onBranch : branch.or invocation.branchName = branch := by
    rw [unbranched, Option.or_none]
  unfold executeUploadWith executeWith
  simp only [told, asked, resolveHint, onBranch, named, Invocation.branch, late]
  cases gateway.resolve surroundings cache invocation.actionId branch environmentId
      invocation.viewMode with
  | mk resolved after =>
      cases resolved with
      | error reason =>
          rw [pure_bind]
          rfl
      | ok context => simp only [bind_assoc, pure_bind]

end Effects

/-- **The two ways in agree.** What is wrong with an upload is its answer; otherwise it is answered
as its invocation on the branch of the call, and leaves the same cache. The early resolution asks
for the key that the late one would ask for. -/
theorem executeUpload_agrees_with_execute :
    match (invocationOfUpload gateway.settings.upload surroundings.spool arrivals).invocation with
    | .stalled =>
      (gateway.executeUpload surroundings cache arrivals branch environmentId).1 = .stalled
    | .rejected reason =>
      (gateway.executeUpload surroundings cache arrivals branch environmentId).1 = .rejected reason
    | .done invocation =>
      let direct := { invocation with branchName := branch }
      let answer := gateway.execute surroundings cache direct environmentId
      gateway.executeUpload surroundings cache arrivals branch environmentId =
          (.ofExcept answer.1, answer.2) ∧
        ∃ hint,
          (invocationOfUpload gateway.settings.upload surroundings.spool arrivals).hint =
              some hint ∧
            ContextKey.ofCall gateway.settings.defaultEnvironment hint.actionId branch environmentId
                hint.viewMode =
              ContextKey.ofCall gateway.settings.defaultEnvironment direct.actionId direct.branch
                environmentId direct.viewMode := by
  cases asked :
      (invocationOfUpload gateway.settings.upload surroundings.spool arrivals).invocation with
  | stalled =>
      rw [executeUpload, executeUploadWith_of_stalled gateway surroundings cache arrivals branch
        environmentId Executor.runner asked]
      rfl
  | rejected reason =>
      rw [executeUpload, executeUploadWith_of_rejected gateway surroundings cache arrivals branch
        environmentId Executor.runner asked]
      rfl
  | done invocation =>
      constructor
      · rw [executeUpload, executeUploadWith_of_done gateway surroundings cache arrivals branch
          environmentId Executor.runner asked]
        rfl
      · refine ⟨_, (hint_of_invocationOfUpload asked).1, ?_⟩
        rw [Invocation.branch, ContextKey.ofCall_nonBlank]

end Gateway

/-! ## Invocations that ask for the same -/

/-- The key that an invocation asks for. -/
def Invocation.keyUnder (invocation : Invocation) (settings : Settings) (environmentId : String) :
    ContextKey :=
  .ofCall settings.defaultEnvironment invocation.actionId invocation.branch environmentId
    invocation.viewMode

/-- The invocations ask for the same, perhaps in other words: they bind the same, wherever the
bindings come from, and a time of zero is none. -/
structure Invocation.Agree (first second : Invocation) : Prop where
  actionId : first.actionId = second.actionId
  branchName : first.branchName = second.branchName
  viewMode : first.viewMode = second.viewMode
  named : first.params.checkNamed = second.params.checkNamed
  bindings : first.mergedBindings = second.mergedBindings
  substitutionMode : first.substitutionMode = second.substitutionMode
  timeoutMs : TimeoutPolicy.positive first.timeoutMs = TimeoutPolicy.positive second.timeoutMs
  attachments : first.attachments = second.attachments

/-- A time that is set stays set. -/
theorem TimeoutPolicy.positive_positive (timeoutMs : Option Nat) :
    positive (positive timeoutMs) = positive timeoutMs := by
  unfold positive
  rw [Option.filter_filter]
  simp only [Bool.and_self]

/-- The order of a dispatch matters only for its deadline, warnings, id and what is sent. -/
theorem ExecutorRegistry.dispatch_of_positive (registry : ExecutorRegistry) (policy : TimeoutPolicy)
    (occasion : Occasion) (context : ResolvedContext) (order : DispatchOrder)
    {timeoutMs : Option Nat}
    (same : TimeoutPolicy.positive order.timeoutMs = TimeoutPolicy.positive timeoutMs) :
    registry.dispatch policy occasion context order =
      registry.dispatch policy occasion context { order with timeoutMs := timeoutMs } := by
  unfold dispatch dispatchWith TimeoutPolicy.deadline
  rw [same]
  rfl

namespace Gateway

/-- **What an invocation is answered** is decided by its context, whatever else the definitions and
the cache hold. -/
theorem execute_fst (gateway : Gateway) (surroundings : Surroundings) (cache : ContextCache)
    (invocation : Invocation) (environmentId : String) :
    (gateway.execute surroundings cache invocation environmentId).1 = (do
      invocation.params.checkNamed
      let context ← (gateway.resolve surroundings cache invocation.actionId invocation.branch
        environmentId invocation.viewMode).1
      Id.run (gateway.runWith Executor.runner surroundings invocation context)) := by
  unfold execute executeWith
  cases invocation.params.checkNamed with
  | error reason => rfl
  | ok _ =>
      simp only [bind, Except.bind]
      cases gateway.resolve surroundings cache invocation.actionId invocation.branch environmentId
          invocation.viewMode with
      | mk resolved after =>
          cases resolved with
          | error reason => rfl
          | ok context => rfl

/-- Invocations that ask for the same are answered alike. -/
theorem execute_of_agree (gateway : Gateway) (surroundings : Surroundings) (cache : ContextCache)
    (environmentId : String) {first second : Invocation} (agree : first.Agree second) :
    gateway.execute surroundings cache first environmentId =
      gateway.execute surroundings cache second environmentId := by
  have ran (context : ResolvedContext) :
      gateway.runWith Executor.runner surroundings first context =
        gateway.runWith Executor.runner surroundings second context := by
    unfold runWith
    rw [agree.bindings, agree.substitutionMode, agree.attachments]
    cases context.definition.configuration.substitute second.mergedBindings
        second.substitutionMode with
    | error unresolved => rfl
    | ok substituted =>
        exact congrArg Except.ok
          (gateway.registry.dispatch_of_positive _ _ context _ agree.timeoutMs)
  have branch : first.branch = second.branch := by
    rw [Invocation.branch, agree.branchName, Invocation.branch]
  unfold execute executeWith
  simp only [agree.named, agree.actionId, agree.viewMode, branch, ran]

end Gateway

end ActionGateway
