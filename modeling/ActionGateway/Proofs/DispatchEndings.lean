import ActionGateway.Execution.Dispatch
import ActionGateway.Proofs.Registries

/-!
# How dispatches end

A dispatch ends in one of four ways: no executor was ever registered for the kind of the datasource,
the executor that was registered last for it takes longer than the deadline, or it fails or answers
in time. The envelope tells which, and its parts never contradict each other, so a caller may look
at any of them.
-/

namespace ActionGateway

/-- No kind of failure has the status of a success. -/
theorem FailureKind.httpStatus_ne_success (kind : FailureKind) : kind.httpStatus ≠ 200 := by
  cases kind <;> decide

/-- An envelope tells no failure exactly when its status is that of a success. -/
theorem Envelope.failure_eq_none_iff (envelope : Envelope) :
    envelope.failure = none ↔ envelope.httpStatus = 200 := by
  unfold httpStatus
  cases envelope.failure with
  | none => simp
  | some detail =>
      have bad : detail.kind.httpStatus ≠ 200 := detail.kind.httpStatus_ne_success
      simp [bad]

/-- The kind of the failure that an envelope reports. -/
def Envelope.failureKind? (envelope : Envelope) : Option FailureKind :=
  envelope.failure.map FailureDetail.kind

namespace ExecutorRegistry

/-- Registering executors of other kinds changes nothing for a kind. -/
theorem get?_foldl_register {executors : List Executor} {kind : String}
    (others : ∀ executor ∈ executors, executor.kind ≠ kind) (registry : ExecutorRegistry) :
    (executors.foldl register registry).get? kind = registry.get? kind := by
  induction executors generalizing registry with
  | nil => rfl
  | cons executor rest ih =>
      obtain ⟨other, rest⟩ := List.forall_mem_cons.mp others
      have untouched : (registry.register executor).get? kind = registry.get? kind := by
        rw [get?_register, if_neg (Ne.symm other)]
      exact (ih rest _).trans untouched

/-- The executor that is found for a kind is the last one of that kind, and no other. -/
theorem get?_ofList_eq_some_iff (executors : List Executor) (kind : String) (executor : Executor) :
    (ofList executors).get? kind = some executor ↔ IsLastOfKind executors kind executor := by
  constructor
  · intro found
    have served := get?_ofList executors kind
    rw [found] at served
    exact served
  · rintro ⟨before, after, rfl, rfl, last⟩
    have own : ((before.foldl register empty).register executor).get? executor.kind =
        some executor := by
      rw [get?_register, if_pos rfl]
    rw [ofList, List.foldl_append, List.foldl_cons, get?_foldl_register last, own]

/-- No executor is found for a kind when none of that kind was registered. -/
theorem get?_ofList_eq_none_iff (executors : List Executor) (kind : String) :
    (ofList executors).get? kind = none ↔ ∀ executor ∈ executors, executor.kind ≠ kind := by
  constructor
  · intro absent
    have served := get?_ofList executors kind
    rw [absent] at served
    exact served
  · exact fun others => get?_foldl_register others empty

/-- **How the executors of a registry end a dispatch**, by the history of the registry, the run of
the executor and the deadline. -/
inductive EndsIn (executors : List Executor) (kind : String) (input : ExecutorInput)
    (deadlineMs : Nat) : DispatchEnd → Prop where
  | notRegistered :
      (∀ executor ∈ executors, executor.kind ≠ kind) →
      EndsIn executors kind input deadlineMs (.notRegistered kind)
  | timedOut {executor : Executor} :
      IsLastOfKind executors kind executor →
      deadlineMs < (executor.run input).durationMs →
      EndsIn executors kind input deadlineMs (.timedOut deadlineMs)
  | failed {executor : Executor} {error : ExecutorError} :
      IsLastOfKind executors kind executor →
      (executor.run input).durationMs ≤ deadlineMs →
      (executor.run input).result = .error error →
      EndsIn executors kind input deadlineMs (.failed ⟨.executor, error.message, error.code⟩)
  | answered {executor : Executor} {output : ExecutorOutput} :
      IsLastOfKind executors kind executor →
      (executor.run input).durationMs ≤ deadlineMs →
      (executor.run input).result = .ok output →
      EndsIn executors kind input deadlineMs (.succeeded output)

end ExecutorRegistry

/-- The kind of failure that an end is, if it is one. -/
def DispatchEnd.failureKind? : DispatchEnd → Option FailureKind
  | .succeeded _ => none
  | .failed detail => some detail.kind

/-- **The envelope tells an end.** A success shows what the executor answered. A failure shows its
message as the body, no headers, and as the status the code of the executor or the name of its
kind. -/
def Envelope.Shows (envelope : Envelope) : DispatchEnd → Prop
  | .succeeded output =>
    envelope.success = true ∧ envelope.failure = none ∧ envelope.body = output.body ∧
      envelope.headers = output.headers ∧ envelope.statusCode = output.statusCode.getD "200"
  | .failed detail =>
    envelope.success = false ∧ envelope.failure = some detail ∧
      envelope.body = .str detail.message ∧ envelope.headers = .empty ∧
      envelope.statusCode = detail.pluginCode.getD detail.kind.name

section Envelopes

variable (ending : DispatchEnd) (occasion : Occasion) (executionId : String)
  (context : ResolvedContext) (order : DispatchOrder) (waitMs : Nat)

/-- The envelope that is made of an end tells that end. -/
theorem DispatchEnd.shows_envelope :
    (ending.envelope occasion executionId context order waitMs).Shows ending := by
  cases ending with
  | succeeded output => exact ⟨rfl, rfl, rfl, rfl, rfl⟩
  | failed detail => exact ⟨rfl, rfl, rfl, rfl, rfl⟩

/-- Whatever the end, the envelope names the dispatch and carries the warnings from before it. -/
theorem DispatchEnd.marks_envelope :
    let envelope := ending.envelope occasion executionId context order waitMs
    envelope.warnings = order.warnings ∧ envelope.actionId = context.action.id ∧
      envelope.executionId = executionId := by
  cases ending with
  | succeeded output => exact ⟨rfl, rfl, rfl⟩
  | failed detail => exact ⟨rfl, rfl, rfl⟩

end Envelopes

namespace Envelope.Shows

variable {envelope : Envelope} {ending : DispatchEnd}

/-- The kind of failure that an envelope shows is that of the end. -/
theorem failureKind?_eq (shown : envelope.Shows ending) :
    envelope.failureKind? = ending.failureKind? := by
  unfold Envelope.failureKind?
  cases ending with
  | succeeded output =>
      obtain ⟨-, failure, -⟩ := shown
      rw [failure]
      rfl
  | failed detail =>
      obtain ⟨-, failure, -⟩ := shown
      rw [failure]
      rfl

/-- An envelope shows a success or a failure, not both. -/
theorem success_iff (shown : envelope.Shows ending) :
    envelope.success = true ↔ envelope.failure = none := by
  cases ending with
  | succeeded output =>
      obtain ⟨success, failure, -⟩ := shown
      simp [success, failure]
  | failed detail =>
      obtain ⟨success, failure, -⟩ := shown
      simp [success, failure]

end Envelope.Shows

/-- The end of a run under a deadline. -/
def DispatchEnd.ofRun (deadlineMs : Nat) (run : ExecutorRun) : DispatchEnd :=
  if deadlineMs < run.durationMs then .timedOut deadlineMs else .ofResult run.result

namespace ExecutorRegistry

variable (policy : TimeoutPolicy) (occasion : Occasion) (context : ResolvedContext)
  (order : DispatchOrder)

/-- What the executor of a dispatch is given. -/
abbrev inputOf : ExecutorInput :=
  context.executorInput (order.executionId.getD occasion.freshId) order.configuration
    order.attachments

/-- The deadline that a dispatch is held to. -/
abbrev deadlineOf : Nat :=
  policy.deadline order.timeoutMs context.definition.timeoutMs

section Registered

variable {registry : ExecutorRegistry}

/-- Without an executor for its plugin, a dispatch ends at once and says so. -/
theorem dispatch_of_unregistered (absent : registry.get? context.datasource.plugin = none) :
    registry.dispatch policy occasion context order =
      ⟨(DispatchEnd.notRegistered context.datasource.plugin).envelope occasion
        (order.executionId.getD occasion.freshId) context order 0, none⟩ := by
  unfold dispatch dispatchWith
  rw [absent]
  rfl

/-- With an executor for its plugin, a dispatch ends as the run of that executor does by the
deadline. -/
theorem dispatch_of_registered {executor : Executor}
    (found : registry.get? context.datasource.plugin = some executor) :
    let deadlineMs := deadlineOf policy context order
    let input := inputOf occasion context order
    let run := executor.run input
    let waitMs := min run.durationMs deadlineMs
    registry.dispatch policy occasion context order =
      ⟨(DispatchEnd.ofRun deadlineMs run).envelope occasion
          (order.executionId.getD occasion.freshId) context order waitMs,
        some ⟨executor, input, waitMs, decide (deadlineMs < run.durationMs)⟩⟩ := by
  intro deadlineMs input run waitMs
  have ending : DispatchEnd.ofRun deadlineMs run =
      if decide (deadlineMs < run.durationMs) = true then .timedOut deadlineMs
      else .ofResult run.result := by
    simp [DispatchEnd.ofRun]
  unfold dispatch dispatchWith
  rw [found, ending]
  rfl

end Registered

variable (executors : List Executor)

/-- Every dispatch ends in one of the four ways, and its envelope is made for that end. -/
theorem exists_end_dispatch :
    ∃ ending waitMs,
      EndsIn executors context.datasource.plugin (inputOf occasion context order)
        (deadlineOf policy context order) ending ∧
      ((ofList executors).dispatch policy occasion context order).envelope =
        ending.envelope occasion (order.executionId.getD occasion.freshId) context order
          waitMs := by
  cases found : (ofList executors).get? context.datasource.plugin with
  | none =>
      have absent := (get?_ofList_eq_none_iff executors context.datasource.plugin).mp found
      rw [dispatch_of_unregistered policy occasion context order found]
      exact ⟨_, 0, .notRegistered absent, rfl⟩
  | some executor =>
      have last := (get?_ofList_eq_some_iff executors context.datasource.plugin executor).mp found
      rw [dispatch_of_registered policy occasion context order found]
      refine ⟨_, _, ?_, rfl⟩
      by_cases late : deadlineOf policy context order <
          (executor.run (inputOf occasion context order)).durationMs
      · rw [DispatchEnd.ofRun, if_pos late]
        exact .timedOut last late
      · rw [DispatchEnd.ofRun, if_neg late]
        have inTime := Nat.not_lt.mp late
        cases result : (executor.run (inputOf occasion context order)).result with
        | error error => exact .failed last inTime result
        | ok output => exact .answered last inTime result

section Kinds

variable {executors} {kind : String} {input : ExecutorInput} {deadlineMs : Nat}
  {ending : DispatchEnd} {envelope : Envelope}

/-- There is one executor that was registered last for a kind. -/
theorem IsLastOfKind.eq {first second : Executor} (last : IsLastOfKind executors kind first)
    (other : IsLastOfKind executors kind second) : first = second := by
  have found := (get?_ofList_eq_some_iff executors kind first).mpr last
  have again := (get?_ofList_eq_some_iff executors kind second).mpr other
  exact Option.some.inj (found.symm.trans again)

namespace EndsIn

/-- A dispatch fails for want of an executor exactly when none was registered for the kind. -/
theorem notRegistered_iff (ends : EndsIn executors kind input deadlineMs ending) :
    ending.failureKind? = some .pluginNotRegistered ↔
      ∀ executor ∈ executors, executor.kind ≠ kind := by
  cases ends with
  | notRegistered others => exact iff_of_true rfl others
  | timedOut last _ | failed last _ _ | answered last _ _ =>
      refine iff_of_false (fun same => nomatch same) fun others => ?_
      exact others _ last.mem last.kind_eq

/-- A dispatch times out exactly when the executor registered last takes too long. -/
theorem timedOut_iff (ends : EndsIn executors kind input deadlineMs ending) :
    ending.failureKind? = some .executionTimeout ↔
      ∃ executor, IsLastOfKind executors kind executor ∧
        deadlineMs < (executor.run input).durationMs := by
  cases ends with
  | timedOut last late => exact iff_of_true rfl ⟨_, last, late⟩
  | notRegistered others =>
      refine iff_of_false (fun same => nomatch same) ?_
      rintro ⟨executor, last, -⟩
      exact others executor last.mem last.kind_eq
  | failed last inTime _ | answered last inTime _ =>
      refine iff_of_false (fun same => nomatch same) ?_
      rintro ⟨executor, other, late⟩
      rw [other.eq last] at late
      exact Nat.not_lt.mpr inTime late

/-- A dispatch fails with an error of the executor exactly when the one registered last fails in
time. -/
theorem failed_iff (ends : EndsIn executors kind input deadlineMs ending) :
    ending.failureKind? = some .executor ↔
      ∃ executor error, IsLastOfKind executors kind executor ∧
        (executor.run input).durationMs ≤ deadlineMs ∧
        (executor.run input).result = .error error := by
  cases ends with
  | failed last inTime result => exact iff_of_true rfl ⟨_, _, last, inTime, result⟩
  | notRegistered others =>
      refine iff_of_false (fun same => nomatch same) ?_
      rintro ⟨executor, error, last, -⟩
      exact others executor last.mem last.kind_eq
  | timedOut last late =>
      refine iff_of_false (fun same => nomatch same) ?_
      rintro ⟨executor, error, other, inTime, -⟩
      rw [other.eq last] at inTime
      exact Nat.not_lt.mpr inTime late
  | answered last inTime result =>
      refine iff_of_false (fun same => nomatch same) ?_
      rintro ⟨executor, error, other, -, failed⟩
      rw [other.eq last, result] at failed
      exact nomatch failed

end EndsIn

end Kinds

/-- **A dispatch is always answered with a well-formed envelope.** The envelope shows how the
dispatch ended, which the registrations, the run of the executor and the deadline decide. Success,
no failure and the status of a success go together. The warnings are the given ones, the action is
the resolved one, and an id that is given is kept. -/
theorem dispatch_wellFormed :
    let kind := context.datasource.plugin
    let input := inputOf occasion context order
    let deadlineMs := deadlineOf policy context order
    let envelope := ((ofList executors).dispatch policy occasion context order).envelope
    (∃ ending, EndsIn executors kind input deadlineMs ending ∧ envelope.Shows ending) ∧
      (envelope.success = true ↔ envelope.failure = none) ∧
      (envelope.failure = none ↔ envelope.httpStatus = 200) ∧
      (envelope.failureKind? = some .pluginNotRegistered ↔
        ∀ executor ∈ executors, executor.kind ≠ kind) ∧
      (envelope.failureKind? = some .executionTimeout ↔
        ∃ executor, IsLastOfKind executors kind executor ∧
          deadlineMs < (executor.run input).durationMs) ∧
      (envelope.failureKind? = some .executor ↔
        ∃ executor error, IsLastOfKind executors kind executor ∧
          (executor.run input).durationMs ≤ deadlineMs ∧
          (executor.run input).result = .error error) ∧
      envelope.warnings = order.warnings ∧
      envelope.actionId = context.action.id ∧
      (∀ executionId, order.executionId = some executionId →
        envelope.executionId = executionId) := by
  intro kind input deadlineMs envelope
  obtain ⟨ending, waitMs, ends, made⟩ :=
    exists_end_dispatch policy occasion context order executors
  have shown : envelope.Shows ending := by
    change Envelope.Shows (dispatch _ _ _ _ _).envelope ending
    rw [made]
    exact ending.shows_envelope ..
  have same : envelope.failureKind? = ending.failureKind? := shown.failureKind?_eq
  refine ⟨⟨ending, ends, shown⟩, shown.success_iff, envelope.failure_eq_none_iff, ?_⟩
  rw [same]
  refine ⟨ends.notRegistered_iff, ends.timedOut_iff, ends.failed_iff, ?_⟩
  obtain ⟨warnings, action, executionId⟩ := ending.marks_envelope occasion
    (order.executionId.getD occasion.freshId) context order waitMs
  rw [← made] at warnings action executionId
  refine ⟨warnings, action, ?_⟩
  intro given kept
  rw [kept, Option.getD_some] at executionId
  exact executionId

end ExecutorRegistry

end ActionGateway
