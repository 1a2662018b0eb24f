import ActionGateway.Execution.Gateway
import ActionGateway.Proofs.CacheHistories
import ActionGateway.Proofs.CoherentSessions
import ActionGateway.Proofs.ContextKeys
import ActionGateway.Proofs.SharedResolver

/-!
# Contexts that are served

A context is put together from several look-ups, and between any two of them the definitions may
change. Whatever a call answers with was loaded for the very key that the call asks for, through
definitions that were current one after the other, by this call or by an earlier one whose context
was kept. So the parts of a context belong together, and they are the parts that the call asks for.
-/

namespace ActionGateway

/-! ## Look-ups in definitions that change -/

namespace Reading

variable {α β : Type}

/-- One look-up after the other, each in the definitions of its moment. -/
def through (moments : List Definitions) (reading : Reading α) : Reading α :=
  moments.foldl (fun reading definitions => reading.step definitions.reader) reading

/-- Reading through one moment more takes its step there. -/
theorem through_concat (moments : List Definitions) (definitions : Definitions)
    (reading : Reading α) :
    reading.through (moments ++ [definitions]) =
      (reading.through moments).step definitions.reader :=
  List.foldl_append

/-- A reading that is over stays as it is. -/
theorem through_of_ended {reading : Reading α} (ended : reading.isOver = true)
    (moments : List Definitions) : reading.through moments = reading := by
  induction moments with
  | nil => rfl
  | cons first rest ih =>
      have stays : reading.step first.reader = reading := by
        cases reading with
        | done _ | rejected _ => rfl
        | application _ _ | action _ _ | copyOnBranch _ _ _ | datasource _ _ => exact nomatch ended
      change (reading.step first.reader).through rest = reading
      rw [stays, ih]

/-- A reading that has something to look up and comes to a value made its look-up at the first
moment. -/
theorem exists_of_through {reading : Reading α} {moments : List Definitions} {value : α}
    (unfinished : reading.isOver = false) (ran : reading.through moments = .done value) :
    ∃ first rest, moments = first :: rest ∧
      (reading.step first.reader).through rest = .done value := by
  cases moments with
  | nil =>
      change reading = .done value at ran
      rw [ran] at unfinished
      exact nomatch unfinished
  | cons first rest => exact ⟨first, rest, rfl, ran⟩

section LookUps

variable {moments : List Definitions} {value : α}

/-- A reading that asks for an application is answered at its first moment. -/
theorem exists_of_through_application {id : String} {next : Option Application → Reading α}
    (ran : (application id next).through moments = .done value) :
    ∃ first rest, moments = first :: rest ∧
      (next (first.application? id)).through rest = .done value :=
  exists_of_through rfl ran

theorem exists_of_through_action {id : String} {next : Option Action → Reading α}
    (ran : (action id next).through moments = .done value) :
    ∃ first rest, moments = first :: rest ∧
      (next (first.action? id)).through rest = .done value :=
  exists_of_through rfl ran

theorem exists_of_through_copyOnBranch {base branch : String} {next : Option Action → Reading α}
    (ran : (copyOnBranch base branch next).through moments = .done value) :
    ∃ first rest, moments = first :: rest ∧
      (next (first.copyOnBranch? base branch)).through rest = .done value :=
  exists_of_through rfl ran

theorem exists_of_through_datasource {id : String} {next : Option Datasource → Reading α}
    (ran : (datasource id next).through moments = .done value) :
    ∃ first rest, moments = first :: rest ∧
      (next (first.datasource? id)).through rest = .done value :=
  exists_of_through rfl ran

/-- A reading that is done gives what it had. -/
theorem eq_of_through_done {other : α} (ran : (done other).through moments = .done value) :
    other = value := by
  rw [through_of_ended rfl] at ran
  exact Reading.done.inj ran

/-- A rejected one gives nothing. -/
theorem not_through_rejected {reason : Rejection} :
    (rejected reason : Reading α).through moments ≠ .done value := by
  rw [through_of_ended rfl]
  exact nofun

/-- A reading that rejects what is missing gives what was there. -/
theorem eq_some_of_through_orReject {found : Option α} {reason : Rejection}
    (ran : (orReject found reason).through moments = .done value) : found = some value := by
  cases found with
  | none => exact (not_through_rejected ran).elim
  | some other => rw [eq_of_through_done ran]

end LookUps

/-- While a reading is under way, its continuation waits. -/
theorem step_andThen {first : Reading α} (unfinished : first.isOver = false)
    (next : α → Reading β) (reader : DefinitionReader) :
    (first.andThen next).step reader = (first.step reader).andThen next := by
  cases first with
  | done _ | rejected _ => exact nomatch unfinished
  | application id rest =>
      simp only [andThen, step]
      cases reader.application id <;> rfl
  | action id rest =>
      simp only [andThen, step]
      cases reader.action id <;> rfl
  | copyOnBranch base branch rest =>
      simp only [andThen, step]
      cases reader.copyOnBranch base branch <;> rfl
  | datasource id rest =>
      simp only [andThen, step]
      cases reader.datasource id <;> rfl

/-- The moments of a reading that goes on with another are those of the one and then those of the
other. -/
theorem exists_of_through_andThen {first : Reading α} {next : α → Reading β}
    {moments : List Definitions} {value : β}
    (ran : (first.andThen next).through moments = .done value) :
    ∃ middle before after, moments = before ++ after ∧ first.through before = .done middle ∧
      (next middle).through after = .done value := by
  induction moments generalizing first with
  | nil =>
      cases first with
      | done middle => exact ⟨middle, [], [], rfl, rfl, ran⟩
      | rejected _ | application _ _ | action _ _ | copyOnBranch _ _ _ | datasource _ _ =>
          exact nomatch ran
  | cons definitions rest ih =>
      cases ended : first.isOver with
      | true =>
          cases first with
          | done middle => exact ⟨middle, [], _, rfl, rfl, ran⟩
          | rejected reason => exact (not_through_rejected ran).elim
          | application _ _ | action _ _ | copyOnBranch _ _ _ | datasource _ _ =>
              exact nomatch ended
      | false =>
          change ((first.andThen next).step definitions.reader).through rest = .done value at ran
          rw [step_andThen ended] at ran
          obtain ⟨middle, before, after, rfl, earlier, later⟩ := ih ran
          exact ⟨middle, definitions :: before, after, rfl, earlier, later⟩

/-- All look-ups at one moment are enough to come to what a reading comes to in one go. -/
theorem exists_through_of_run {definitions : Definitions} {reading : Reading α} {value : α}
    (ran : reading.run definitions.reader = .ok value) :
    ∃ count, reading.through (List.replicate count definitions) = .done value := by
  induction reading using step_induction definitions.reader with
  | ended reading ended =>
      refine ⟨0, ?_⟩
      cases reading with
      | done other =>
          cases ran
          rfl
      | rejected _ => exact nomatch ran
      | application _ _ | action _ _ | copyOnBranch _ _ _ | datasource _ _ => exact nomatch ended
  | lookUp reading _ ih =>
      rw [run_step] at ih
      obtain ⟨count, ran⟩ := ih ran
      exact ⟨count + 1, ran⟩

end Reading

/-- **The default line as it was looked up.** The first look-up found the requested action and the
second one its application, of which the branch was the default one. The action has the base id of
the requested one. -/
def Definitions.FindDefaultLine (moments : List Definitions) (id branch : String)
    (action : Action) : Prop :=
  ∃ first second rest requested application, moments = first :: second :: rest ∧
    first.action? id = some requested ∧
    second.application? requested.applicationId = some application ∧
    application.isDefaultBranch branch = true ∧ action.id = requested.baseId

/-- Finding the default line needs no later moments. -/
theorem Definitions.FindDefaultLine.append {moments : List Definitions} {id branch : String}
    {action : Action} (find : FindDefaultLine moments id branch action) (later : List Definitions) :
    FindDefaultLine (moments ++ later) id branch action := by
  obtain ⟨first, second, rest, requested, application, rfl, found⟩ := find
  exact ⟨first, second, rest ++ later, requested, application, rfl, found⟩

namespace ContextKey

/-- The look-ups of a key, each in the definitions of its moment, come to a context. -/
def LoadsThrough (key : ContextKey) (moments : List Definitions) (context : ResolvedContext) :
    Prop :=
  key.reading.through moments = .done context

variable {key : ContextKey} {branch : String} {action : Action} {moments : List Definitions}
  {context : ResolvedContext}

/-- Naming a branch selects an action that is on it, or the default line. -/
theorem version_of_selectAction (filed : ∀ definitions ∈ moments, definitions.Filed)
    (named : key.branch = some branch)
    (selected : key.selectAction.through moments = .done action) :
    action.branchName = some branch ∨
      Definitions.FindDefaultLine moments key.actionId branch action := by
  obtain ⟨first, afterAction, rfl, onBranched⟩ := Reading.exists_of_through_action selected
  cases asked : first.action? key.actionId with
  | none =>
      rw [asked] at onBranched
      exact (Reading.not_through_rejected onBranched).elim
  | some requested =>
      simp only [asked, named] at onBranched
      unfold onBranch at onBranched
      by_cases same : requested.branchName = some branch
      · rw [if_pos same] at onBranched
        rw [← Reading.eq_of_through_done onBranched]
        exact .inl same
      rw [if_neg same] at onBranched
      obtain ⟨second, rest, rfl, placed⟩ := Reading.exists_of_through_application onBranched
      cases owner : second.application? requested.applicationId with
      | none =>
          rw [owner] at placed
          exact (Reading.not_through_rejected placed).elim
      | some application =>
          simp only [owner] at placed
          by_cases main : application.isDefaultBranch branch = true
          · rw [if_pos main] at placed
            refine .inr ⟨first, second, rest, requested, application, rfl, asked, owner, main, ?_⟩
            by_cases line : requested.isDefaultLine = true
            · rw [if_pos line] at placed
              rw [← Reading.eq_of_through_done placed]
              exact beq_iff_eq.mp line
            · rw [if_neg line] at placed
              obtain ⟨third, afterBase, rfl, based⟩ := Reading.exists_of_through_action placed
              have found := Reading.eq_some_of_through_orReject based
              have third_filed : third.Filed := filed third (by simp)
              exact third_filed.actions _ _ found
          · rw [if_neg main] at placed
            by_cases listed : application.hasBranch branch = true
            · rw [if_pos listed] at placed
              obtain ⟨third, afterCopy, rfl, copied⟩ :=
                Reading.exists_of_through_copyOnBranch placed
              have found := Reading.eq_some_of_through_orReject copied
              exact .inl (Definitions.of_copyOnBranch?_eq_some found).2.2
            · rw [if_neg listed] at placed
              exact (Reading.not_through_rejected placed).elim

/-- The rest of a context comes from its action: the side that the key asks for, the datasource that
this side names, and the storage of the environment. -/
theorem parts_of_contextOf (filed : ∀ definitions ∈ moments, definitions.Filed)
    (read : (key.contextOf action).through moments = .done context) :
    context.action = action ∧ context.Fits key ∧
      context.datasource.id = context.definition.datasourceId := by
  unfold contextOf at read
  cases side : action.definition? key.viewMode with
  | none =>
      rw [side] at read
      exact (Reading.not_through_rejected read).elim
  | some definition =>
      rw [side] at read
      obtain ⟨first, rest, rfl, sourced⟩ := Reading.exists_of_through_datasource read
      cases found : first.datasource? definition.datasourceId with
      | none =>
          rw [found] at sourced
          exact (Reading.not_through_rejected sourced).elim
      | some datasource =>
          simp only [found] at sourced
          cases stored : datasource.storage? key.environmentId with
          | none =>
              rw [stored] at sourced
              exact (Reading.not_through_rejected sourced).elim
          | some storage =>
              rw [stored] at sourced
              have made := Reading.eq_of_through_done sourced
              subst made
              have first_filed : first.Filed := filed first List.mem_cons_self
              exact ⟨rfl, ⟨side, stored, rfl, rfl⟩, first_filed.datasources _ _ found⟩

end ContextKey

/-! ## Contexts that suit a call -/

/-- **The context suits the call**, given the moments of the look-ups that it was loaded by. -/
structure ResolvedContext.SuitsCall (context : ResolvedContext) (defaultEnvironment id : String)
    (branch : Option String) (environment : String) (mode : ViewMode)
    (moments : List Definitions) : Prop where
  viewMode : context.viewMode = mode
  environmentId : context.environmentId =
    if Text.isBlankText environment then defaultEnvironment else environment
  definition : context.action.definition? mode = some context.definition
  datasource : context.datasource.id = context.definition.datasourceId
  storage : context.datasource.storage? context.environmentId = some context.storage
  version : ∀ name, branch = some name → Text.isBlankText name = false →
    context.action.branchName = some (Text.trimmed name) ∨
      Definitions.FindDefaultLine moments id (Text.trimmed name) context.action

/-- A context that a key loads suits the call that the key is for. -/
theorem ContextKey.LoadsThrough.suitsCall {defaultEnvironment id environmentId : String}
    {branch : Option String} {viewMode : ViewMode} {moments : List Definitions}
    {context : ResolvedContext}
    (loads : (ofCall defaultEnvironment id branch environmentId viewMode).LoadsThrough
      moments context)
    (filed : ∀ definitions ∈ moments, definitions.Filed) :
    context.SuitsCall defaultEnvironment id branch environmentId viewMode moments := by
  obtain ⟨action, before, after, rfl, selected, read⟩ := Reading.exists_of_through_andThen loads
  have filedBefore : ∀ definitions ∈ before, definitions.Filed := fun definitions member =>
    filed definitions (List.mem_append_left _ member)
  have filedAfter : ∀ definitions ∈ after, definitions.Filed := fun definitions member =>
    filed definitions (List.mem_append_right _ member)
  obtain ⟨rfl, fits, source⟩ := parts_of_contextOf filedAfter read
  refine ⟨fits.viewMode, fits.environmentId, fits.definition, source, ?_, ?_⟩
  · rw [fits.environmentId]
    exact fits.storage
  · rintro name rfl visible
    have named := ofCall_branch_of_visible defaultEnvironment id environmentId viewMode visible
    rcases version_of_selectAction filedBefore named selected with onBranch | defaultLine
    · exact .inl onBranch
    · exact .inr (defaultLine.append after)

/-! ## Along a run -/

namespace Definitions

/-- The definitions after a step. Only writing a record changes them. -/
def afterStep (definitions : Definitions) : ResolverStep → Definitions
  | .put record => definitions.put record
  | .lookUp _ _ | .readGeneration _ | .readStore _ | .answer _ | .invalidate _ | .advance _ =>
    definitions

/-- The definitions after steps of the resolver. -/
def afterSteps (definitions : Definitions) (steps : List ResolverStep) : Definitions :=
  steps.foldl afterStep definitions

/-- One step more is taken last. -/
theorem afterSteps_concat (definitions : Definitions) (steps : List ResolverStep)
    (step : ResolverStep) :
    definitions.afterSteps (steps ++ [step]) = (definitions.afterSteps steps).afterStep step :=
  List.foldl_append

/-- Records stay filed under their ids. -/
theorem Filed.afterSteps {definitions : Definitions} (filed : definitions.Filed)
    (steps : List ResolverStep) : (definitions.afterSteps steps).Filed := by
  apply List.foldlRecOn steps afterStep filed
  intro later filedLater step _
  cases step with
  | put record => exact filedLater.put record
  | lookUp _ _ | readGeneration _ | readStore _ | answer _ | invalidate _ | advance _ =>
      exact filedLater

end Definitions

namespace SharedResolver

/-- **Moments of a run**: definitions that were current one after the other while the steps were
taken. -/
inductive Passed (origin : Definitions) : List ResolverStep → List Definitions → Prop where
  | start : Passed origin [] []
  | look {steps : List ResolverStep} {moments : List Definitions} :
      Passed origin steps moments → Passed origin steps (moments ++ [origin.afterSteps steps])
  | step {steps : List ResolverStep} {moments : List Definitions} (step : ResolverStep) :
      Passed origin steps moments → Passed origin (steps ++ [step]) moments

variable {origin : Definitions} {steps : List ResolverStep} {moments : List Definitions}

/-- A call that has read nothing has passed no moment. -/
theorem passed_nil (origin : Definitions) (steps : List ResolverStep) : Passed origin steps [] := by
  induction steps using List.reverseRecOn with
  | nil => exact .start
  | append_singleton steps step ih => exact ih.step step

/-- The present may be passed as often as one likes. -/
theorem passed_replicate (origin : Definitions) (steps : List ResolverStep) (count : Nat) :
    Passed origin steps (List.replicate count (origin.afterSteps steps)) := by
  induction count with
  | zero => exact passed_nil origin steps
  | succ count ih =>
      rw [List.replicate_succ']
      exact ih.look

/-- At every passed moment the records were filed under their ids. -/
theorem Passed.filed (passed : Passed origin steps moments) (filed : origin.Filed) :
    ∀ definitions ∈ moments, definitions.Filed := by
  induction passed with
  | start => exact fun _ member => (List.not_mem_nil member).elim
  | step _ _ ih => exact ih
  | look _ ih =>
      intro definitions member
      rcases List.mem_append.mp member with earlier | last
      · exact ih definitions earlier
      · rw [List.mem_singleton.mp last]
        exact filed.afterSteps _

/-- The context was loaded for the key at moments of the run. -/
def LoadedFor (origin : Definitions) (steps : List ResolverStep) (key : ContextKey)
    (context : ResolvedContext) : Prop :=
  ∃ moments, Passed origin steps moments ∧ key.LoadsThrough moments context

/-- What is known of a call at a stage: how far its look-ups have come, and what it answered. -/
def StageTraced (origin : Definitions) (steps : List ResolverStep) : CallStage → Prop
  | .reading key _ rest =>
    ∃ moments, Passed origin steps moments ∧ rest = key.reading.through moments
  | .answered key (.ok context) => LoadedFor origin steps key context
  | .idle | .missed _ | .answered _ (.error _) => True

/-- **Everything was loaded for its key**, what is kept as well as what was answered. -/
structure Traced (origin : Definitions) (steps : List ResolverStep) (state : SharedResolver) :
    Prop where
  definitions : state.definitions = origin.afterSteps steps
  calls : ∀ call, StageTraced origin steps (state.calls call)
  entries : ∀ entry ∈ state.cache.entries, LoadedFor origin steps entry.1 entry.2.context

/-- A context loaded for a key stays so as steps are taken. -/
theorem LoadedFor.later {key : ContextKey} {context : ResolvedContext}
    (loaded : LoadedFor origin steps key context) (taken : ResolverStep) :
    LoadedFor origin (steps ++ [taken]) key context := by
  obtain ⟨moments, passed, loads⟩ := loaded
  exact ⟨moments, passed.step taken, loads⟩

/-- A stage stays traced as steps are taken. -/
theorem StageTraced.later {stage : CallStage} (traced : StageTraced origin steps stage)
    (taken : ResolverStep) : StageTraced origin (steps ++ [taken]) stage := by
  cases stage with
  | idle | missed _ => trivial
  | reading key generation rest =>
      obtain ⟨moments, passed, reached⟩ := traced
      exact ⟨moments, passed.step taken, reached⟩
  | answered key answer =>
      cases answer with
      | error reason => trivial
      | ok context => exact LoadedFor.later traced taken

variable {policy : CachePolicy} {state next : SharedResolver} {taken : ResolverStep}

/-- A call that comes to a stage leaves what is known of the others. -/
theorem Traced.calls_update (traced : Traced origin steps state) {call : Nat} {stage : CallStage}
    (reached : StageTraced origin (steps ++ [taken]) stage) (other : Nat) :
    StageTraced origin (steps ++ [taken]) (Function.update state.calls call stage other) := by
  by_cases same : other = call
  · subst same
    rw [Function.update_self]
    exact reached
  · rw [Function.update_of_ne same]
    exact (traced.calls other).later taken

/-- Whatever the cache finds for a key was loaded for it. -/
theorem Traced.kept (traced : Traced origin steps state) {now : Nat} {key : ContextKey}
    {context : ResolvedContext} (found : state.cache.find? policy now key = some context) :
    LoadedFor origin steps key context := by
  obtain ⟨cachedAt, member, -⟩ := ContextCache.mem_entries_of_find? _ _ _ found
  exact traced.entries _ member

/-- A step changes the definitions as it says. -/
theorem definitions_of_step (leads : Step policy state taken next) :
    next.definitions = state.definitions.afterStep taken := by
  cases leads with
  | hit _ _ | miss _ _ | readGeneration _ | readStore _ _ | answer _ | reject _ | put _
  | invalidate _ | advance _ => rfl

/-- **Each step keeps track of what was loaded.** -/
theorem Traced.step (traced : Traced origin steps state) (leads : Step policy state taken next) :
    Traced origin (steps ++ [taken]) next := by
  have definitions : next.definitions = origin.afterSteps (steps ++ [taken]) := by
    rw [definitions_of_step leads, traced.definitions, Definitions.afterSteps_concat]
  have entries : ∀ entry ∈ state.cache.entries,
      LoadedFor origin (steps ++ [taken]) entry.1 entry.2.context :=
    fun entry member => (traced.entries entry member).later taken
  have calls (call : Nat) : StageTraced origin (steps ++ [taken]) (state.calls call) :=
    (traced.calls call).later taken
  cases leads with
  | hit _ found => exact ⟨definitions, traced.calls_update ((traced.kept found).later _), entries⟩
  | miss _ _ => exact ⟨definitions, traced.calls_update trivial, entries⟩
  | readGeneration _ =>
      exact ⟨definitions, traced.calls_update ⟨[], passed_nil _ _, rfl⟩, entries⟩
  | @readStore call generation key rest reading _ =>
      have before := traced.calls call
      rw [reading] at before
      obtain ⟨moments, passed, reached⟩ := before
      refine ⟨definitions, traced.calls_update ⟨_, passed.look.step _, ?_⟩, entries⟩
      rw [Reading.through_concat, ← reached, traced.definitions]
  | @answer call generation key context reading =>
      have before := traced.calls call
      rw [reading] at before
      obtain ⟨moments, passed, reached⟩ := before
      have loaded : LoadedFor origin (steps ++ [.answer call]) key context :=
        ⟨moments, passed.step _, reached.symm⟩
      refine ⟨definitions, traced.calls_update loaded, ?_⟩
      intro entry member
      rcases ContextCache.mem_entries_keep_of_generation _ policy _ member with rfl | earlier
      · exact loaded
      · exact entries entry earlier
  | reject _ => exact ⟨definitions, traced.calls_update trivial, entries⟩
  | put record => exact ⟨definitions, calls, entries⟩
  | invalidate invalidation =>
      refine ⟨definitions, calls, ?_⟩
      intro entry member
      exact entries entry ((ContextCache.mem_entries_invalidate _ invalidation entry).mp member).1
  | advance ms => exact ⟨definitions, calls, entries⟩

/-- Every state of a run is traced. -/
theorem Run.traced (run : Run policy (.initial origin) steps state) :
    Traced origin steps state := by
  induction run with
  | start => exact ⟨rfl, fun _ => trivial, fun _ member => (List.not_mem_nil member).elim⟩
  | step _ taken ih => exact ih.step taken

/-- What a traced resolver answers was loaded for the key. -/
theorem Traced.resolved (traced : Traced origin steps state) {policy : CachePolicy} {now : Nat}
    {key : ContextKey} {context : ResolvedContext}
    (answered : (state.cache.resolve policy state.definitions.reader now key).1 = .ok context) :
    LoadedFor origin steps key context := by
  cases found : state.cache.find? policy now key with
  | some kept =>
      rw [ContextCache.resolve_of_kept _ _ _ found] at answered
      cases answered
      exact traced.kept found
  | none =>
      cases loaded : key.load state.definitions.reader with
      | error reason =>
          rw [ContextCache.resolve_of_refused _ _ _ found loaded] at answered
          exact nomatch answered
      | ok read =>
          rw [ContextCache.resolve_of_loaded _ _ _ found loaded] at answered
          cases answered
          obtain ⟨count, reached⟩ := Reading.exists_through_of_run loaded
          rw [traced.definitions] at reached
          exact ⟨_, passed_replicate origin steps count, reached⟩

end SharedResolver

/-- What a call that runs in one go finds in a state. -/
def Surroundings.during (surroundings : Surroundings) (state : SharedResolver) : Surroundings :=
  { surroundings with reader := state.definitions.reader, nowMs := state.now }

namespace Gateway

open SharedResolver

/-- **A context that a call is answered with suits the call.** The cache may have had it, many calls
may run at the same time, and the definitions may change between any two look-ups: the moments that
the context was loaded at lie within the run, and its look-ups were those of the key of the call. -/
theorem resolved_context_suits_call (gateway : Gateway) (surroundings : Surroundings)
    (records : List DefinitionRecord) (steps : List ResolverStep) (state : SharedResolver)
    (run : Run gateway.policy (.initial (.ofRecords records)) steps state)
    (id : String) (branch : Option String) (environmentId : String) (viewMode : ViewMode)
    (context : ResolvedContext)
    (answered :
      (∃ call, state.calls call =
        .answered (.ofCall gateway.settings.defaultEnvironment id branch environmentId viewMode)
          (.ok context)) ∨
      (gateway.resolve (surroundings.during state) state.cache id branch environmentId viewMode).1 =
        .ok context) :
    ∃ moments, Passed (.ofRecords records) steps moments ∧
      (ContextKey.ofCall gateway.settings.defaultEnvironment id branch environmentId
        viewMode).LoadsThrough moments context ∧
      context.SuitsCall gateway.settings.defaultEnvironment id branch environmentId viewMode
        moments := by
  have traced := run.traced
  obtain ⟨moments, passed, loads⟩ : LoadedFor (.ofRecords records) steps
      (.ofCall gateway.settings.defaultEnvironment id branch environmentId viewMode) context := by
    rcases answered with ⟨call, stage⟩ | resolved
    · have reached := traced.calls call
      rw [stage] at reached
      exact reached
    · exact traced.resolved resolved
  exact ⟨moments, passed, loads,
    loads.suitsCall (passed.filed (Definitions.filed_ofRecords records))⟩

/-- A service that has answered nothing. -/
def reportGateway : Gateway := ⟨.standard, .empty, .first⟩

/-- Definitions read at the start of time. -/
def reportSurroundings : Surroundings where
  reader := (Definitions.ofRecords Report.records).reader
  nowMs := 0
  occasion := ⟨default, fun ms => ms, ""⟩
  spool _ := .ok ""

/-- A call for the default branch is read, and then another branch becomes the default one. -/
def movedDefaultSteps : List ResolverStep := [
  .lookUp 0 (.ofCall "production" "report-preview" (some " main ") "" .edit),
  .readGeneration 0, .readStore 0, .readStore 0, .readStore 0, .readStore 0, .answer 0,
  .put (.application ⟨"sales", "Sales", some "preview", ["main"]⟩)]

/-- The kept context is of the default line, which was on the branch when it was looked up. -/
theorem resolved_context_suits_call_after_moved_default :
    ∃ state moments, Run (CacheSettings.policy .standard .first)
      (.initial (.ofRecords Report.records))
        movedDefaultSteps state ∧
      state.definitions.application? "sales" =
        some ⟨"sales", "Sales", some "preview", ["main"]⟩ ∧
      (reportGateway.resolve (reportSurroundings.during state) state.cache "report-preview"
        (some "main") " " .edit).1 = .ok Report.context ∧
      Passed (.ofRecords Report.records) movedDefaultSteps moments ∧
      Report.context.SuitsCall "production" "report-preview" (some "main") " " .edit moments := by
  obtain ⟨state, run, moved, answered⟩ : ∃ state,
      Run (CacheSettings.policy .standard .first) (.initial (.ofRecords Report.records))
        movedDefaultSteps state ∧
      state.definitions.application? "sales" =
        some ⟨"sales", "Sales", some "preview", ["main"]⟩ ∧
      (reportGateway.resolve (reportSurroundings.during state) state.cache "report-preview"
        (some "main") " " .edit).1 = .ok Report.context :=
    ⟨_, .cons (.miss rfl rfl) <| .cons (.readGeneration rfl) <| .cons (.readStore rfl rfl) <|
      .cons (.readStore rfl rfl) <| .cons (.readStore rfl rfl) <| .cons (.readStore rfl rfl) <|
      .cons (.answer rfl) <| .cons (.put _) .start, by decide, by decide⟩
  obtain ⟨moments, passed, -, suits⟩ :=
    resolved_context_suits_call reportGateway reportSurroundings _ _
    state run _ _ _ _ _ (.inr answered)
  exact ⟨state, moments, run, moved, answered, passed, suits⟩

end Gateway

end ActionGateway
