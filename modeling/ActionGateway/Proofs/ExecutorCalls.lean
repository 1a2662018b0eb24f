import ActionGateway.Proofs.CacheHistories
import ActionGateway.Proofs.EntryPoints
import ActionGateway.Proofs.Registries

/-!
# What executors are called for

Here executors are run by a runner that notes each call. The notes change no answer. A rejected
invocation leaves none, wherever it was rejected. An answered one leaves at most one: the executor
that was registered last for the kind of the datasource, with what its context, its bindings and
its attachments make up.
-/

namespace ActionGateway

/-- The calls of executors, in order. -/
abbrev CallLog := List (Executor × ExecutorInput)

/-- Run executors and note each call. -/
def Executor.notingRunner : ExecutorRunner (StateM CallLog) := fun executor input => do
  modify fun log => log ++ [(executor, input)]
  pure (executor.run input)

/-- **At most one call**, of the last executor of a kind. There is one unless there is no executor
of that kind. -/
structure CalledLast (executors : List Executor) (kind : String) (input : ExecutorInput)
    (calls : CallLog) : Prop where
  atMostOne : calls.length ≤ 1
  one_iff : calls.length = 1 ↔ ∃ executor ∈ executors, executor.kind = kind
  last : ∀ call ∈ calls, ExecutorRegistry.IsLastOfKind executors kind call.1 ∧ call.2 = input

/-- The calls that a dispatch makes. -/
def ExecutorRegistry.calls (registry : ExecutorRegistry) (kind : String) (input : ExecutorInput) :
    CallLog :=
  (registry.get? kind).toList.map fun executor => (executor, input)

/-- The one executor that may be called is the one registered last for the kind. -/
theorem ExecutorRegistry.calledLast_ofList (executors : List Executor) (kind : String)
    (input : ExecutorInput) :
    CalledLast executors kind input ((ofList executors).calls kind input) := by
  have served := get?_ofList executors kind
  unfold calls
  cases found : (ofList executors).get? kind with
  | none =>
      rw [found] at served
      refine ⟨Nat.zero_le 1, ?_, fun _ member => nomatch member⟩
      constructor
      · exact nofun
      · rintro ⟨executor, member, ofKind⟩
        exact absurd ofKind (served executor member)
  | some executor =>
      rw [found] at served
      refine ⟨Nat.le_refl 1, iff_of_true rfl ⟨executor, served.mem, served.kind_eq⟩, ?_⟩
      intro call member
      rw [List.mem_singleton.mp member]
      exact ⟨served, rfl⟩

/-! ## Dispatch -/

namespace ExecutorRegistry

variable (registry : ExecutorRegistry) (policy : TimeoutPolicy) (occasion : Occasion)
  (context : ResolvedContext) (order : DispatchOrder)

/-- A dispatch notes the calls that it makes and answers as it would without notes. -/
theorem run_dispatchWith_noting (log : CallLog) :
    (registry.dispatchWith Executor.notingRunner policy occasion context order).run log =
      (registry.dispatch policy occasion context order,
        log ++ registry.calls context.datasource.plugin
          (context.executorInput (order.executionId.getD occasion.freshId) order.configuration
            order.attachments)) := by
  unfold dispatch dispatchWith calls
  cases registry.get? context.datasource.plugin with
  | none =>
      rw [Option.toList_none, List.map_nil, List.append_nil]
      rfl
  | some executor => rfl

/-- The envelope of a dispatch carries the warnings of its order. -/
theorem warnings_dispatch :
    (registry.dispatch policy occasion context order).envelope.warnings = order.warnings := by
  unfold dispatch dispatchWith
  cases registry.get? context.datasource.plugin with
  | none => rfl
  | some executor =>
      simp only [Executor.runner, Id.run, bind, pure]
      unfold DispatchEnd.envelope
      split <;> rfl

end ExecutorRegistry

/-! ## Invocations -/

namespace Gateway

/-- The gateway after executors were registered one after the other. -/
def withExecutors (settings : Settings) (executors : List Executor) (eviction : Eviction) :
    Gateway :=
  ⟨settings, .ofList executors, eviction⟩

/-- **What an answer is made of.** The bindings were put into the configuration of the context, and
the warnings of that are those of the envelope; the calls are those for the kind of the datasource,
with the storage of the environment and the attachments of the invocation. -/
structure Serves (executors : List Executor) (surroundings : Surroundings) (invocation : Invocation)
    (context : ResolvedContext) (substituted : Substituted Json) (dispatched : Dispatched)
    (calls : CallLog) : Prop where
  configuration : context.definition.configuration.substitute invocation.mergedBindings
    invocation.substitutionMode = .ok substituted
  calls : CalledLast executors context.datasource.plugin {
      executionId := surroundings.occasion.freshId
      actionId := context.action.id
      actionName := context.action.name
      environmentId := context.environmentId
      config := context.storage.config
      credentials := context.storage.credentials
      configuration := substituted.value
      attachments := invocation.attachments } calls
  warnings : dispatched.envelope.warnings = substituted.warnings.map Unresolved.warning

/-- **How an invocation is answered.** A parameter without a name, a context that is not found and
a binding that does not resolve are answered with a rejection and no call. Everything else is
answered as the context of the key demands. -/
inductive Answers (settings : Settings) (executors : List Executor) (eviction : Eviction)
    (surroundings : Surroundings) (cache : ContextCache) (invocation : Invocation)
    (environmentId : String) : Except Rejection Dispatched → CallLog → Prop where
  | unnamed {reason : Rejection} :
      invocation.params.checkNamed = .error reason →
      Answers settings executors eviction surroundings cache invocation environmentId
        (.error reason) []
  | unresolved {reason : Rejection} :
      invocation.params.checkNamed = .ok () →
      ((withExecutors settings executors eviction).resolve surroundings cache invocation.actionId
        invocation.branch environmentId invocation.viewMode).1 = .error reason →
      Answers settings executors eviction surroundings cache invocation environmentId
        (.error reason) []
  | unbound {context : ResolvedContext} {unresolved : Unresolved} :
      invocation.params.checkNamed = .ok () →
      ((withExecutors settings executors eviction).resolve surroundings cache invocation.actionId
        invocation.branch environmentId invocation.viewMode).1 = .ok context →
      context.definition.configuration.substitute invocation.mergedBindings
        invocation.substitutionMode = .error unresolved →
      Answers settings executors eviction surroundings cache invocation environmentId
        (.error (.unresolvedBinding unresolved)) []
  | served {context : ResolvedContext} {substituted : Substituted Json} {dispatched : Dispatched}
      {calls : CallLog} :
      invocation.params.checkNamed = .ok () →
      ((withExecutors settings executors eviction).resolve surroundings cache invocation.actionId
        invocation.branch environmentId invocation.viewMode).1 = .ok context →
      context.Fits (.ofCall settings.defaultEnvironment invocation.actionId invocation.branch
        environmentId invocation.viewMode) →
      Serves executors surroundings invocation context substituted dispatched calls →
      Answers settings executors eviction surroundings cache invocation environmentId
        (.ok dispatched) calls

/-- **How an upload is answered.** One that cannot be taken in is answered with the rejection, or
not at all, and no call. Any other is answered as the invocation that it asks for, with its files in
the order in which they arrived. -/
inductive AnswersUpload (settings : Settings) (executors : List Executor) (eviction : Eviction)
    (surroundings : Surroundings) (cache : ContextCache) (arrivals : List Arrival)
    (branch : Option String) (environmentId : String) : Outcome Dispatched → CallLog → Prop where
  | rejected {reason : Rejection} :
      (invocationOfUpload settings.upload surroundings.spool arrivals).invocation =
        .rejected reason →
      AnswersUpload settings executors eviction surroundings cache arrivals branch environmentId
        (.rejected reason) []
  | stalled :
      (invocationOfUpload settings.upload surroundings.spool arrivals).invocation = .stalled →
      AnswersUpload settings executors eviction surroundings cache arrivals branch
        environmentId .stalled []
  | taken {invocation : Invocation} {answer : Except Rejection Dispatched} {calls : CallLog} :
      (invocationOfUpload settings.upload surroundings.spool arrivals).invocation =
        .done invocation →
      List.Forall₂
        (fun part attachment =>
          Intake.readAttachment settings.upload surroundings.spool part = .done attachment)
        (arrivals.filterMap Arrival.file?) invocation.attachments →
      Answers settings executors eviction surroundings cache
        { invocation with branchName := branch }
        environmentId answer calls →
      AnswersUpload settings executors eviction surroundings cache arrivals branch environmentId
        (.ofExcept answer) calls

section Rejections

variable {settings : Settings} {executors : List Executor} {eviction : Eviction}
  {surroundings : Surroundings} {cache : ContextCache} {invocation : Invocation}
  {arrivals : List Arrival}
  {branch : Option String} {environmentId : String} {calls : CallLog}

/-- An invocation that is rejected has called no executor. -/
theorem Answers.calls_eq_nil {reason : Rejection}
    (answers : Answers settings executors eviction surroundings cache invocation environmentId
      (.error reason) calls) : calls = [] := by
  cases answers with
  | unnamed | unresolved | unbound => rfl

/-- An upload that is not dispatched has called no executor. -/
theorem AnswersUpload.calls_eq_nil {outcome : Outcome Dispatched}
    (answers : AnswersUpload settings executors eviction surroundings cache arrivals branch
      environmentId outcome calls) (failed : ∀ dispatched, outcome ≠ .done dispatched) :
    calls = [] := by
  cases answers with
  | rejected | stalled => rfl
  | @taken _ answer _ asked files made =>
      cases answer with
      | error reason => exact made.calls_eq_nil
      | ok dispatched => exact absurd rfl (failed dispatched)

end Rejections

section Running

variable {m : Type → Type} [Monad m] (runner : ExecutorRunner m) (gateway : Gateway)
  (surroundings : Surroundings) {invocation : Invocation} {context : ResolvedContext}

/-- Where substitution fails, nothing is dispatched. -/
theorem runWith_of_error {unresolved : Unresolved}
    (put : context.definition.configuration.substitute invocation.mergedBindings
      invocation.substitutionMode = .error unresolved) :
    gateway.runWith runner surroundings invocation context =
      pure (.error (.unresolvedBinding unresolved)) := by
  unfold runWith
  rw [put]

/-- Where substitution succeeds, its result is dispatched with its warnings. -/
theorem runWith_of_ok {substituted : Substituted Json}
    (put : context.definition.configuration.substitute invocation.mergedBindings
      invocation.substitutionMode = .ok substituted) :
    gateway.runWith runner surroundings invocation context =
      (do
        let dispatched ← gateway.registry.dispatchWith runner gateway.settings.execution
          surroundings.occasion context {
            configuration := substituted.value
            executionId := none
            timeoutMs := invocation.timeoutMs
            attachments := invocation.attachments
            warnings := substituted.warnings.map Unresolved.warning }
        pure (.ok dispatched)) := by
  unfold runWith
  rw [put]

end Running

variable (settings : Settings) (executors : List Executor) (eviction : Eviction)
  (surroundings : Surroundings) (cache : ContextCache) (invocation : Invocation)
  (arrivals : List Arrival)
  (branch : Option String) (environmentId : String)

/-- Execute a structured invocation and note the calls. -/
def executeNoting (gateway : Gateway) : (Except Rejection Dispatched × ContextCache) × CallLog :=
  Id.run <|
    (gateway.executeWith Executor.notingRunner surroundings cache invocation environmentId).run []

/-- Execute an upload and note the calls. -/
def executeUploadNoting (gateway : Gateway) : (Outcome Dispatched × ContextCache) × CallLog :=
  Id.run <|
    (gateway.executeUploadWith Executor.notingRunner surroundings cache arrivals branch
      environmentId).run []

/-- Noting calls does not change the answer to an invocation, and the calls are those that the
answer was made of. -/
theorem executeNoting_spec (fitting : cache.Fitting) :
    let gateway := withExecutors settings executors eviction
    let noted := gateway.executeNoting surroundings cache invocation environmentId
    noted.1 = gateway.execute surroundings cache invocation environmentId ∧
      Answers settings executors eviction surroundings cache invocation environmentId noted.1.1
        noted.2 := by
  intro gateway noted
  have fits := fitting.resolve gateway.policy surroundings.reader surroundings.nowMs
    (.ofCall settings.defaultEnvironment invocation.actionId invocation.branch environmentId
      invocation.viewMode)
  simp only [noted, executeNoting, execute, executeWith]
  cases named : invocation.params.checkNamed with
  | error reason => exact ⟨rfl, .unnamed named⟩
  | ok _ =>
      cases found : gateway.resolve surroundings cache invocation.actionId invocation.branch
          environmentId invocation.viewMode with
      | mk resolved after =>
          have answer := congrArg Prod.fst found
          cases resolved with
          | error reason => exact ⟨rfl, .unresolved named answer⟩
          | ok context =>
              cases put : context.definition.configuration.substitute invocation.mergedBindings
                  invocation.substitutionMode with
              | error unresolved =>
                  simp only [runWith_of_error _ gateway surroundings put]
                  exact ⟨rfl, .unbound named answer put⟩
              | ok substituted =>
                  have last := ExecutorRegistry.calledLast_ofList executors
                    context.datasource.plugin (context.executorInput
                      surroundings.occasion.freshId substituted.value invocation.attachments)
                  simp only [runWith_of_ok _ gateway surroundings put, StateT.run_bind,
                    StateT.run_pure, ExecutorRegistry.run_dispatchWith_noting]
                  exact ⟨rfl, .served named answer (fits context answer)
                    ⟨put, last, gateway.registry.warnings_dispatch ..⟩⟩

/-- What an upload answers and calls, in terms of the invocation that it asks for. -/
theorem executeUploadNoting_spec (fitting : cache.Fitting) :
    let gateway := withExecutors settings executors eviction
    let noted := gateway.executeUploadNoting surroundings cache arrivals branch environmentId
    noted.1 = gateway.executeUpload surroundings cache arrivals branch environmentId ∧
      AnswersUpload settings executors eviction surroundings cache arrivals branch
        environmentId noted.1.1 noted.2 := by
  intro gateway noted
  simp only [noted, executeUploadNoting, executeUpload]
  cases asked : (invocationOfUpload settings.upload surroundings.spool arrivals).invocation with
  | stalled =>
      rw [executeUploadWith_of_stalled gateway surroundings cache arrivals branch environmentId _
          asked,
        executeUploadWith_of_stalled gateway surroundings cache arrivals branch environmentId _
          asked]
      exact ⟨rfl, .stalled asked⟩
  | rejected reason =>
      rw [executeUploadWith_of_rejected gateway surroundings cache arrivals branch environmentId _
          asked,
        executeUploadWith_of_rejected gateway surroundings cache arrivals branch environmentId _
          asked]
      exact ⟨rfl, .rejected asked⟩
  | done invocation =>
      obtain ⟨same, made⟩ := executeNoting_spec settings executors eviction surroundings cache
        { invocation with branchName := branch } environmentId fitting
      rw [executeUploadWith_of_done gateway surroundings cache arrivals branch environmentId _
          asked,
        executeUploadWith_of_done gateway surroundings cache arrivals branch environmentId _ asked]
      constructor
      · exact congrArg (fun answer => (Outcome.ofExcept answer.1, answer.2)) same
      · exact .taken asked (attachments_of_invocationOfUpload asked) made

/-- **Executors are called once at the end or not at all.** Whatever happened to the cache before,
and whatever executors were registered, this holds of every invocation and of every upload. -/
theorem executions_call_last_registered (history : List CacheEvent) :
    let gateway := withExecutors settings executors eviction
    let cache := ContextCache.after history
    let noted := gateway.executeNoting surroundings cache invocation environmentId
    let notedUpload :=
      gateway.executeUploadNoting surroundings cache arrivals branch environmentId
    (noted.1 = gateway.execute surroundings cache invocation environmentId ∧
        (∀ reason, noted.1.1 = .error reason → noted.2 = []) ∧
        Answers settings executors eviction surroundings cache invocation environmentId
          noted.1.1 noted.2) ∧
      (notedUpload.1 = gateway.executeUpload surroundings cache arrivals branch environmentId ∧
        ((∀ dispatched, notedUpload.1.1 ≠ .done dispatched) → notedUpload.2 = []) ∧
        AnswersUpload settings executors eviction surroundings cache arrivals branch environmentId
          notedUpload.1.1 notedUpload.2) := by
  intro gateway cache noted notedUpload
  have fitting := ContextCache.fitting_after history
  obtain ⟨same, made⟩ :=
    executeNoting_spec settings executors eviction surroundings cache invocation
      environmentId fitting
  obtain ⟨sameUpload, madeUpload⟩ :=
    executeUploadNoting_spec settings executors eviction surroundings cache arrivals branch
      environmentId
      fitting
  refine ⟨⟨same, ?_, made⟩, sameUpload, madeUpload.calls_eq_nil, madeUpload⟩
  intro reason failed
  rw [failed] at made
  exact made.calls_eq_nil

end Gateway

end ActionGateway
