import ActionGateway.Proofs.DispatchEndings
import ActionGateway.Proofs.EntryPoints
import ActionGateway.Proofs.IntegerSettings
import ActionGateway.Proofs.Records

/-!
# Deadlines that are applied

Every dispatch is held to a deadline: the first time that is set, out of the time that is asked for,
the time of the action and the default, but never more than the maximum. Settings are accepted only
if their default is positive and within the maximum, so under them no deadline is zero. A zero that
is asked for counts as nothing, whether the descriptor of an upload or an invocation asks for it.
-/

namespace ActionGateway

namespace TimeoutPolicy

variable {policy : TimeoutPolicy} {requested action : Option Nat} {ms : Nat}

/-! ## Times that are set -/

/-- **The first time that is set.** Zero is no time. -/
inductive FirstSet : List (Option Nat) → Nat → Prop where
  | set {ms : Nat} {later : List (Option Nat)} (positive : 0 < ms) : FirstSet (some ms :: later) ms
  | absent {ms : Nat} {later : List (Option Nat)} (first : FirstSet later ms) :
      FirstSet (none :: later) ms
  | zero {ms : Nat} {later : List (Option Nat)} (first : FirstSet later ms) :
      FirstSet (some 0 :: later) ms

/-- A positive time is set. -/
theorem positive_of_pos (set : 0 < ms) : positive (some ms) = some ms := by
  rw [positive, Option.filter_some, if_pos (decide_eq_true set)]

/-- The first time that is set is positive. -/
theorem FirstSet.pos {times : List (Option Nat)} (first : FirstSet times ms) : 0 < ms := by
  induction first with
  | set positive => exact positive
  | absent _ ih => exact ih
  | zero _ ih => exact ih

/-- The first time that is set is the first positive one. -/
theorem firstSet_iff {times : List (Option Nat)} :
    FirstSet times ms ↔ times.findSome? positive = some ms := by
  constructor
  · intro first
    induction first with
    | set set => rw [List.findSome?_cons, positive_of_pos set]
    | absent _ ih => exact ih
    | zero _ ih => exact ih
  · intro found
    induction times with
    | nil => cases found
    | cons time later ih =>
        cases time with
        | none => exact .absent (ih found)
        | some other =>
            rcases Nat.eq_zero_or_pos other with rfl | set
            · exact .zero (ih found)
            · rw [List.findSome?_cons, positive_of_pos set] at found
              cases found
              exact .set set

/-! ## Sound policies -/

/-- **A sound policy**: its default is positive and within the maximum. -/
structure Sound (policy : TimeoutPolicy) : Prop where
  positive : 0 < policy.defaultMs
  within : policy.defaultMs ≤ policy.maxMs

/-- **The deadline that applies** to a time that is asked for and a time of the action. -/
structure IsDeadline (policy : TimeoutPolicy) (requested action : Option Nat) (deadlineMs : Nat) :
    Prop where
  positive : 0 < deadlineMs
  capped : deadlineMs ≤ policy.maxMs
  first : ∃ ms, FirstSet [requested, action, some policy.defaultMs] ms ∧
    deadlineMs = min policy.maxMs ms

/-- Of the time that is asked for, the time of the action and the default, a policy takes the first
that is set. -/
theorem firstSet_deadline (sound : policy.Sound) (requested action : Option Nat) :
    FirstSet [requested, action, some policy.defaultMs]
      (((positive requested).or (positive action)).getD policy.defaultMs) := by
  have default := positive_of_pos sound.positive
  rw [firstSet_iff]
  simp only [List.findSome?_cons, default]
  cases positive requested with
  | some ms => rfl
  | none =>
      cases positive action with
      | some ms => rfl
      | none => rfl

theorem isDeadline_deadline (sound : policy.Sound) (requested action : Option Nat) :
    policy.IsDeadline requested action (policy.deadline requested action) := by
  have first := firstSet_deadline sound requested action
  have maximum : 0 < policy.maxMs := Nat.lt_of_lt_of_le sound.positive sound.within
  exact ⟨Nat.lt_min.mpr ⟨first.pos, maximum⟩, Nat.min_le_right _ _, _, first, Nat.min_comm _ _⟩

end TimeoutPolicy

/-! ## Settings that are accepted -/

namespace Settings

variable {known : Variables} {content : String} {format : DocumentFormat} {settings : Settings}

/-- The times of settings that were accepted are positive, and the default is within the maximum. -/
theorem sound_of_parse (parsed : parse known content format = .ok settings) :
    settings.execution.Sound := by
  obtain ⟨-, -, -, -, -, faultless⟩ := parse_eq_ok_iff.mp parsed
  unfold fault? at faultless
  split at faultless
  · cases faultless
  · rename_i set
    split at faultless
    · cases faultless
    · rename_i within
      exact ⟨Nat.pos_of_ne_zero set, Nat.le_of_not_lt within⟩

end Settings

/-! ## Dispatches -/

/-- **A dispatch is held to a deadline**: the executor that was called is waited for until then at
most. It is stopped if it takes longer, and then the envelope says so; else it is not. -/
def Dispatched.IsHeldTo (dispatched : Dispatched) (deadlineMs : Nat) : Prop :=
  ∀ call ∈ dispatched.call,
    call.waitMs = min (call.executor.run call.input).durationMs deadlineMs ∧
      (call.stopped = true ↔ deadlineMs < (call.executor.run call.input).durationMs) ∧
      (dispatched.envelope.failureKind? = some .executionTimeout ↔
        deadlineMs < (call.executor.run call.input).durationMs)

/-- A run ends with a timeout exactly when it takes longer than the deadline. -/
theorem DispatchEnd.failureKind?_ofRun_iff (deadlineMs : Nat) (run : ExecutorRun) :
    (ofRun deadlineMs run).failureKind? = some .executionTimeout ↔ deadlineMs < run.durationMs := by
  unfold ofRun
  split
  · rename_i late
    exact iff_of_true rfl late
  · rename_i inTime
    refine iff_of_false ?_ inTime
    cases run.result with
    | ok output => exact nofun
    | error error => exact nofun

/-- Every dispatch is held to the deadline of its policy. -/
theorem ExecutorRegistry.isHeldTo_dispatch (registry : ExecutorRegistry) (policy : TimeoutPolicy)
    (occasion : Occasion) (context : ResolvedContext) (order : DispatchOrder) :
    (registry.dispatch policy occasion context order).IsHeldTo
      (policy.deadline order.timeoutMs context.definition.timeoutMs) := by
  intro call called
  cases found : registry.get? context.datasource.plugin with
  | none =>
      rw [dispatch_of_unregistered policy occasion context order found] at called
      cases called
  | some executor =>
      rw [dispatch_of_registered policy occasion context order found] at called ⊢
      cases called
      refine ⟨rfl, decide_eq_true_iff, ?_⟩
      let run := executor.run (inputOf occasion context order)
      let deadlineMs := deadlineOf policy context order
      have shown := (DispatchEnd.ofRun deadlineMs run).shows_envelope occasion
        (order.executionId.getD occasion.freshId) context order (min run.durationMs deadlineMs)
      rw [shown.failureKind?_eq]
      exact DispatchEnd.failureKind?_ofRun_iff deadlineMs run

/-! ## The two ways in -/

namespace Gateway

variable (gateway : Gateway) (surroundings : Surroundings) (cache : ContextCache)
  (environmentId : String)

/-- An invocation is answered by a dispatch with the time that it asks for. -/
theorem exists_dispatch_of_execute {invocation : Invocation} {dispatched : Dispatched}
    (answered : (gateway.execute surroundings cache invocation environmentId).1 = .ok dispatched) :
    ∃ context order,
      (gateway.resolve surroundings cache invocation.actionId invocation.branch environmentId
          invocation.viewMode).1 = .ok context ∧
        order.timeoutMs = invocation.timeoutMs ∧
        gateway.registry.dispatch gateway.settings.execution surroundings.occasion context order =
          dispatched := by
  rw [execute_fst] at answered
  obtain ⟨-, -, answered⟩ := of_bind_eq_ok answered
  obtain ⟨context, resolved, answered⟩ := of_bind_eq_ok answered
  unfold runWith at answered
  cases substitutes : context.definition.configuration.substitute invocation.mergedBindings
      invocation.substitutionMode with
  | error unresolved =>
      rw [substitutes] at answered
      cases answered
  | ok substituted =>
      rw [substitutes] at answered
      cases answered
      exact ⟨context, _, resolved, rfl, rfl⟩

/-- The descriptor of an upload asks for the time of its invocation. -/
theorem timeoutMs_of_invocationOfUpload {settings : UploadSettings} {spool : Spool}
    {arrivals : List Arrival} {invocation : Invocation}
    (asked : (invocationOfUpload settings spool arrivals).invocation = .done invocation) :
    ∃ descriptor,
      (Intake.empty.takeAll settings spool arrivals).1.descriptor = some descriptor ∧
        invocation.timeoutMs = TimeoutPolicy.positive descriptor.timeoutMs := by
  obtain ⟨intake, taken, made⟩ := takeAll_of_invocationOfUpload asked
  obtain ⟨descriptor, actionId, held, -, rfl⟩ := Intake.invocation_eq_ok_iff.mp made
  rw [taken]
  exact ⟨descriptor, held, rfl⟩

/-- **An upload is executed with the time of its descriptor**, as an invocation that asks for the
very same time. -/
theorem executeUpload_eq_execute {arrivals : List Arrival} {branch : Option String}
    {invocation : Invocation}
    (asked : (invocationOfUpload gateway.settings.upload surroundings.spool arrivals).invocation =
      .done invocation) :
    ∃ descriptor,
      (Intake.empty.takeAll gateway.settings.upload surroundings.spool arrivals).1.descriptor =
          some descriptor ∧
        gateway.executeUpload surroundings cache arrivals branch environmentId =
          let answer := gateway.execute surroundings cache
            { invocation with branchName := branch, timeoutMs := descriptor.timeoutMs }
            environmentId
          (.ofExcept answer.1, answer.2) := by
  obtain ⟨descriptor, held, time⟩ := timeoutMs_of_invocationOfUpload asked
  refine ⟨descriptor, held, ?_⟩
  have agree : Invocation.Agree { invocation with branchName := branch }
      { invocation with branchName := branch, timeoutMs := descriptor.timeoutMs } :=
    ⟨rfl, rfl, rfl, rfl, rfl, rfl, time ▸ TimeoutPolicy.positive_positive _, rfl⟩
  rw [executeUpload, executeUploadWith_of_done gateway surroundings cache arrivals branch
    environmentId Executor.runner asked, ← execute_of_agree gateway surroundings cache environmentId
    agree]
  rfl

end Gateway

/-- **Deadlines are positive and capped** under settings that were accepted. For each time that is
asked for and each time of an action, the deadline is the first one that is set, or the default, but
at most the maximum. A dispatch is held to the deadline for its order, so an invocation is held to
the one for the time that it asks for, and so is an upload to the one for the time of its
descriptor. -/
theorem deadlines_positive_and_capped {known : Variables} {content : String}
    {format : DocumentFormat} {settings : Settings}
    (parsed : Settings.parse known content format = .ok settings) (registry : ExecutorRegistry)
    (eviction : Eviction) :
    let policy := settings.execution
    let gateway : Gateway := ⟨settings, registry, eviction⟩
    (∀ requested action, policy.IsDeadline requested action (policy.deadline requested action)) ∧
    (∀ occasion context order,
      (registry.dispatch policy occasion context order).IsHeldTo
        (policy.deadline order.timeoutMs context.definition.timeoutMs)) ∧
    (∀ surroundings cache invocation environmentId dispatched,
      (gateway.execute surroundings cache invocation environmentId).1 = .ok dispatched →
        ∃ context,
          (gateway.resolve surroundings cache invocation.actionId invocation.branch environmentId
              invocation.viewMode).1 = .ok context ∧
            dispatched.IsHeldTo
              (policy.deadline invocation.timeoutMs context.definition.timeoutMs)) ∧
    ∀ surroundings cache arrivals branch environmentId invocation,
      (invocationOfUpload settings.upload surroundings.spool arrivals).invocation =
          .done invocation →
        ∃ descriptor,
          (Intake.empty.takeAll settings.upload surroundings.spool arrivals).1.descriptor =
              some descriptor ∧
            gateway.executeUpload surroundings cache arrivals branch environmentId =
              let answer := gateway.execute surroundings cache
                { invocation with branchName := branch, timeoutMs := descriptor.timeoutMs }
                environmentId
              (.ofExcept answer.1, answer.2) := by
  intro policy gateway
  refine ⟨?_, ?_, ?_, ?_⟩
  · intro requested action
    exact TimeoutPolicy.isDeadline_deadline (Settings.sound_of_parse parsed) requested action
  · intro occasion context order
    exact registry.isHeldTo_dispatch policy occasion context order
  · intro surroundings cache invocation environmentId dispatched answered
    obtain ⟨context, order, resolved, time, rfl⟩ :=
      gateway.exists_dispatch_of_execute surroundings cache environmentId answered
    refine ⟨context, resolved, ?_⟩
    rw [← time]
    exact registry.isHeldTo_dispatch policy surroundings.occasion context order
  · intro surroundings cache arrivals branch environmentId invocation asked
    exact gateway.executeUpload_eq_execute surroundings cache environmentId asked

/-- Settings that leave little time. -/
def hastySettings : Settings := ⟨⟨50, 100⟩, .standard, .standard, "production"⟩

def hastyContent : String :=
  "\x7b\"execution\": \x7b\"default_timeout_ms\": 50, \"max_timeout_ms\": 100\x7d\x7d"

/-- An executor that takes half a second. -/
def slowReports : Executor := ⟨.ofKind "sql", fun _ => ⟨500, .ok ⟨none, .null, .empty⟩⟩⟩

def hastyGateway : Gateway := ⟨hastySettings, .ofList [slowReports], .first⟩

def slowSurroundings : Surroundings where
  reader := (Definitions.ofRecords Report.records).reader
  nowMs := 0
  occasion := ⟨default, fun ms => ms, ""⟩
  spool _ := .ok ""

/-- A descriptor that asks for no time at all. -/
def zeroDescriptor : UploadPart :=
  .text descriptorName "\x7b\"actionId\": \"report\", \"timeoutMs\": 0\x7d"

/-- A zero that is asked for gives way to the default, whichever way it comes in, and half a second
to the maximum. -/
theorem deadlines_positive_and_capped_of_zero :
    Settings.parse ⟨[], fun _ => none⟩ hastyContent .json = .ok hastySettings ∧
      hastySettings.execution.IsDeadline (some 0) none 50 ∧
      hastySettings.execution.IsDeadline (some 500) (some 30) 100 ∧
      (∃ dispatched,
        (hastyGateway.execute slowSurroundings .empty
          { Invocation.ofAction "report" with timeoutMs := some 0 } "production").1 =
            .ok dispatched ∧
          dispatched.IsHeldTo 50) ∧
      ∃ invocation,
        (invocationOfUpload hastySettings.upload slowSurroundings.spool
            [.part zeroDescriptor]).invocation = .done invocation ∧
          invocation.timeoutMs = none ∧
          hastyGateway.executeUpload slowSurroundings .empty [.part zeroDescriptor] none
              "production" =
            let answer := hastyGateway.execute slowSurroundings .empty
              { invocation with branchName := none, timeoutMs := some 0 } "production"
            (.ofExcept answer.1, answer.2) := by
  have parsed : Settings.parse ⟨[], fun _ => none⟩ hastyContent .json = .ok hastySettings := by
    decide +kernel
  obtain ⟨deadlines, -, executed, uploaded⟩ :=
    deadlines_positive_and_capped parsed (.ofList [slowReports]) .first
  refine ⟨parsed, deadlines (some 0) none, deadlines (some 500) (some 30), ?_, ?_⟩
  · obtain ⟨dispatched, answered⟩ : ∃ dispatched, (hastyGateway.execute slowSurroundings .empty
        { Invocation.ofAction "report" with timeoutMs := some 0 } "production").1 =
          .ok dispatched := ⟨_, rfl⟩
    obtain ⟨context, resolved, held⟩ := executed _ _ _ _ _ answered
    have report : context = Report.context := by
      have same : (hastyGateway.resolve slowSurroundings .empty "report" none "production"
          .edit).1 = .ok Report.context := by decide
      cases resolved.symm.trans same
      rfl
    rw [report] at held
    exact ⟨dispatched, answered, held⟩
  · have made : ((invocationOfUpload hastySettings.upload slowSurroundings.spool
        [.part zeroDescriptor]).invocation.toOption.map Invocation.timeoutMs) = some none := by
      decide +kernel
    obtain ⟨invocation, found, unset⟩ := Option.map_eq_some_iff.mp made
    have asked := Outcome.toOption_eq_some_iff.mp found
    obtain ⟨descriptor, held, same⟩ := uploaded slowSurroundings .empty _ none "production" _ asked
    have told : ((Intake.empty.takeAll hastySettings.upload slowSurroundings.spool
        [.part zeroDescriptor]).1.descriptor.map Descriptor.timeoutMs) = some (some 0) := by
      decide +kernel
    rw [held, Option.map_some, Option.some.injEq] at told
    rw [told] at same
    exact ⟨invocation, asked, unset, same⟩

end ActionGateway
