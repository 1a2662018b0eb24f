import ActionGateway.Proofs.DispatchEndings
import ActionGateway.Proofs.EntryPoints
import ActionGateway.Proofs.MaskedCredentials
import ActionGateway.Proofs.RecordOrders
import ActionGateway.Execution.Echo

/-!
# Credentials are not echoed

The echo executor looks at the mask of a context only, and every run of the gateway before and after
it does the same. So nobody who calls a gateway with the echo executor learns anything about the
secrets in the credentials of datasources: not from the envelope, not from a rejection, and not from
the time that an answer takes. Two stores need not hold the same records in the same order, and that
makes no difference either, unless the call asks for one of several copies.
-/

namespace ActionGateway

/-! ## What is compared -/

/-- The map with other values under the same names. -/
def OrderedMap.mapValues {α β : Type} (change : α → β) (map : OrderedMap α) : OrderedMap β where
  entries := map.entries.map fun entry => (entry.1, change entry.2)
  nodup := by
    rw [List.map_map]
    exact map.nodup

/-- The value, or nothing when it is the given id. -/
def Json.withoutId (id : String) (value : Json) : Json :=
  if value = .str id then .null else value

/-- The envelope without what is new in every run: the id of the execution, in headers too, and the
times. -/
def Envelope.timeless (envelope : Envelope) : Envelope :=
  { envelope with
    executionId := ""
    headers := envelope.headers.mapValues (Json.withoutId envelope.executionId)
    durationMs := 0
    startedAt := default }

/-- What a dispatch tells: its envelope, and the time that it takes. -/
def Dispatched.told (dispatched : Dispatched) : Envelope × Nat :=
  (dispatched.envelope.timeless, dispatched.waitMs)

/-- The end of a dispatch without the id of the execution. -/
def DispatchEnd.withoutId (id : String) : DispatchEnd → DispatchEnd
  | .succeeded output =>
    .succeeded { output with headers := output.headers.mapValues (Json.withoutId id) }
  | .failed detail => .failed detail

/-- No occasion in particular. -/
def Occasion.none : Occasion := ⟨default, fun _ => 0, ""⟩

/-- Without times, an envelope does not depend on when and under which id it was made. -/
theorem DispatchEnd.timeless_envelope (ending : DispatchEnd) (occasion : Occasion)
    (executionId : String) (context : ResolvedContext) (order : DispatchOrder) (waitMs : Nat) :
    (ending.envelope occasion executionId context order waitMs).timeless =
      (ending.withoutId executionId).envelope .none "" context order waitMs := by
  cases ending with
  | succeeded output => rfl
  | failed detail => rfl

/-! ## Dispatches -/

/-- What an executor is given, without the id of the execution and with redacted credentials. -/
def ExecutorInput.masked (input : ExecutorInput) : ExecutorInput :=
  { input with executionId := "", credentials := input.credentials.redacted }

/-- Storages have one mask when they differ in secrets of credentials only. -/
theorem Storage.masked_eq_iff {first second : Storage} :
    first.masked = second.masked ↔
      first.config = second.config ∧ first.credentials.redacted = second.credentials.redacted :=
  Storage.mk.injEq .. |>.to_iff

/-- The mask of a datasource shows its plugin. -/
theorem Datasource.plugin_eq_of_masked_eq {first second : Datasource}
    (alike : first.masked = second.masked) : first.plugin = second.plugin :=
  (Datasource.mk.inj alike).2.2.1

namespace ResolvedContext

variable {first second : ResolvedContext}

/-- Contexts have one mask when they differ in datasource and storage by secrets only. -/
theorem masked_eq_iff :
    first.masked = second.masked ↔
      first.action = second.action ∧ first.definition = second.definition ∧
        first.viewMode = second.viewMode ∧ first.datasource.masked = second.datasource.masked ∧
        first.environmentId = second.environmentId ∧ first.storage.masked = second.storage.masked :=
  ResolvedContext.mk.injEq .. |>.to_iff

/-- Contexts with one mask give an executor inputs with one mask. -/
theorem masked_executorInput (alike : first.masked = second.masked)
    (executionId other : String) (configuration : Json) (attachments : List Attachment) :
    (first.executorInput executionId configuration attachments).masked =
      (second.executorInput other configuration attachments).masked := by
  obtain ⟨action, -, -, -, environment, storage⟩ := masked_eq_iff.mp alike
  obtain ⟨config, credentials⟩ := Storage.masked_eq_iff.mp storage
  simp only [ExecutorInput.masked, executorInput, action, environment, config, credentials]

end ResolvedContext

namespace Echo

/-- The echo executor is the only one there is. -/
theorem get?_addTo (kind : String) :
    (addTo .empty).get? kind = if kind = Echo.kind then some executor else none :=
  ExecutorRegistry.get?_register .empty executor kind

/-- The echo executor looks at the mask of its input only. -/
theorem body_masked (input : ExecutorInput) : body input.masked = body input := by
  unfold body ExecutorInput.masked
  rw [Json.redacted_redacted]

/-- The header that gives the id of an execution says nothing else. -/
theorem withoutId_header (id : String) :
    (OrderedMap.ofList [("x-actuate-execution-id", Json.str id)]).mapValues (Json.withoutId id) =
      .ofList [("x-actuate-execution-id", .null)] := by
  simp [OrderedMap.mapValues, OrderedMap.ofList, OrderedMap.insertAll, OrderedMap.insert,
    OrderedMap.write, OrderedMap.empty, Json.withoutId]

/-- **The echo executor uses credentials only redacted**, and the id of the execution only for its
header. -/
theorem withoutId_ofRun (deadlineMs : Nat) (input : ExecutorInput) :
    (DispatchEnd.ofRun deadlineMs (executor.run input)).withoutId input.executionId =
      (DispatchEnd.ofRun deadlineMs (executor.run input.masked)).withoutId "" := by
  have waits : (executor.run input.masked).durationMs = (executor.run input).durationMs := rfl
  unfold DispatchEnd.ofRun
  rw [waits]
  by_cases late : deadlineMs < (executor.run input).durationMs
  · rw [if_pos late, if_pos late]
    rfl
  rw [if_neg late, if_neg late]
  have configuration : input.masked.configuration = input.configuration := rfl
  have masked : input.masked.executionId = "" := rfl
  simp only [executor, result, configuration, body_masked, masked]
  cases failure? input.configuration with
  | some message => rfl
  | none => simp only [DispatchEnd.ofResult, DispatchEnd.withoutId, withoutId_header]

section Told

variable (policy : TimeoutPolicy) (occasion : Occasion) (order : DispatchOrder)
  {first second : ResolvedContext}

/-- A dispatch to the echo executor tells how it ends on the mask of its input. -/
theorem told_dispatch_of_kind (echo : first.datasource.plugin = Echo.kind) :
    let deadlineMs := ExecutorRegistry.deadlineOf policy first order
    let run := executor.run (ExecutorRegistry.inputOf occasion first order).masked
    let waitMs := min run.durationMs deadlineMs
    ((addTo .empty).dispatch policy occasion first order).told =
      (((DispatchEnd.ofRun deadlineMs run).withoutId "").envelope .none "" first order waitMs,
        waitMs) := by
  intro deadlineMs run waitMs
  have found := get?_addTo first.datasource.plugin
  rw [if_pos echo] at found
  have ends := withoutId_ofRun deadlineMs (ExecutorRegistry.inputOf occasion first order)
  unfold Dispatched.told
  rw [ExecutorRegistry.dispatch_of_registered policy occasion first order found,
    DispatchEnd.timeless_envelope]
  refine Prod.ext ?_ rfl
  exact congrArg (fun ending : DispatchEnd => ending.envelope .none "" first order waitMs) ends

/-- Without an executor for its plugin, a dispatch tells that. -/
theorem told_dispatch_of_other (other : first.datasource.plugin ≠ Echo.kind) :
    ((addTo .empty).dispatch policy occasion first order).told =
      ((DispatchEnd.notRegistered first.datasource.plugin).envelope .none "" first order 0, 0) := by
  have absent := get?_addTo first.datasource.plugin
  rw [if_neg other] at absent
  unfold Dispatched.told
  rw [ExecutorRegistry.dispatch_of_unregistered policy occasion first order absent,
    DispatchEnd.timeless_envelope]
  rfl

/-- **A dispatch to the echo executor tells only what is in the mask of the context**, whenever it
happens. -/
theorem told_dispatch_of_masked_eq (another : Occasion) (alike : first.masked = second.masked) :
    ((addTo .empty).dispatch policy occasion first order).told =
      ((addTo .empty).dispatch policy another second order).told := by
  obtain ⟨action, definition, -, datasource, -, -⟩ := ResolvedContext.masked_eq_iff.mp alike
  have plugin := Datasource.plugin_eq_of_masked_eq datasource
  have blank (ending : DispatchEnd) (waitMs : Nat) :
      ending.envelope .none "" first order waitMs =
        ending.envelope .none "" second order waitMs := by
    simp only [DispatchEnd.envelope, action]
  by_cases echo : first.datasource.plugin = Echo.kind
  · have input := ResolvedContext.masked_executorInput alike
      (order.executionId.getD occasion.freshId) (order.executionId.getD another.freshId)
      order.configuration order.attachments
    rw [told_dispatch_of_kind policy occasion order echo,
      told_dispatch_of_kind policy another order (plugin ▸ echo)]
    simp only [ExecutorRegistry.inputOf, ExecutorRegistry.deadlineOf, input, definition, blank]
  · rw [told_dispatch_of_other policy occasion order echo,
      told_dispatch_of_other policy another order (plugin ▸ echo), blank, plugin]

end Told

end Echo

/-! ## Calls -/

/-- What a call finds beside the definitions: what happened to the cache before and how it gives
entries up, the time and the occasion, and a place for files. -/
structure Circumstances where
  history : List CacheEvent
  eviction : Eviction
  nowMs : Nat
  occasion : Occasion
  spool : Spool

namespace Circumstances

/-- Nothing was read before but the given definitions. -/
def Serve (circumstances : Circumstances) (definitions : Definitions) : Prop :=
  ∀ event ∈ circumstances.history, event.ReadsWith definitions.reader

/-- The surroundings of the call over definitions. -/
def surroundings (circumstances : Circumstances) (definitions : Definitions) : Surroundings :=
  ⟨definitions.reader, circumstances.nowMs, circumstances.occasion, circumstances.spool⟩

end Circumstances

namespace Echo

variable (settings : Settings)

/-- The gateway with the built-in executors. -/
def gateway (eviction : Eviction) : Gateway := ⟨settings, addTo .empty, eviction⟩

/-- What the caller of an invocation is told. -/
def tell (definitions : Definitions) (circumstances : Circumstances) (invocation : Invocation)
    (environmentId : String) : Except Rejection (Envelope × Nat) :=
  ((gateway settings circumstances.eviction).execute (circumstances.surroundings definitions)
    (.after circumstances.history) invocation environmentId).1.map Dispatched.told

/-- Two runs over contexts with one mask tell the same, whatever else they find. -/
theorem told_runWith (eviction other : Eviction) (surroundings others : Surroundings)
    (invocation : Invocation) {first second : ResolvedContext}
    (alike : first.masked = second.masked) :
    (Id.run ((gateway settings eviction).runWith Executor.runner surroundings invocation first)).map
        Dispatched.told =
      (Id.run ((gateway settings other).runWith Executor.runner others invocation second)).map
        Dispatched.told := by
  obtain ⟨-, definition, -⟩ := ResolvedContext.masked_eq_iff.mp alike
  unfold Gateway.runWith
  rw [definition]
  cases second.definition.configuration.substitute invocation.mergedBindings
      invocation.substitutionMode with
  | error unresolved => rfl
  | ok substituted =>
      exact congrArg Except.ok (told_dispatch_of_masked_eq _ _ _ others.occasion alike)

variable {first second : Definitions} {here there : Circumstances} {invocation : Invocation}
  {environmentId : String}

/-- **Callers are told the same** when their key leads to contexts with one mask. -/
theorem tell_eq_of_masked_load_eq
    (masked : ((invocation.keyUnder settings environmentId).load first.reader).map
        ResolvedContext.masked =
      ((invocation.keyUnder settings environmentId).load second.reader).map ResolvedContext.masked)
    (serveHere : here.Serve first) (serveThere : there.Serve second) :
    tell settings first here invocation environmentId =
      tell settings second there invocation environmentId := by
  unfold tell
  rw [Gateway.execute_fst, Gateway.execute_fst,
    Gateway.resolve_fst_after _ (here.surroundings first) _ serveHere,
    Gateway.resolve_fst_after _ (there.surroundings second) _ serveThere]
  change Except.map _ (_ >>= fun _ =>
      (invocation.keyUnder settings environmentId).load first.reader >>= _) =
    Except.map _ (_ >>= fun _ =>
      (invocation.keyUnder settings environmentId).load second.reader >>= _)
  cases invocation.params.checkNamed with
  | error reason => rfl
  | ok _ =>
      revert masked
      generalize (invocation.keyUnder settings environmentId).load first.reader = loaded
      generalize (invocation.keyUnder settings environmentId).load second.reader = loadedThere
      intro masked
      cases loaded with
      | error reason =>
          cases loadedThere with
          | error other =>
              cases masked
              rfl
          | ok context => exact nomatch masked
      | ok context =>
          cases loadedThere with
          | error reason => exact nomatch masked
          | ok other => exact told_runWith settings _ _ _ _ invocation (Except.ok.inj masked)

/-- **Secrets in credentials are never told.** Over two sets of definitions that differ in nothing
but secrets, each held in whatever order, the caller of an invocation is told the same by the echo
executor: the same rejection, or the same envelope but for id and times, after the same time. Where
the invocation asks for a copy and there are several, which one is run depends on the order; then
what is told in any order of the first definitions is told in some order of the second. -/
theorem tell_eq_of_differInCredentials {definitions others : Definitions}
    (alike : definitions.DifferInCredentials others) (invocation : Invocation)
    (environmentId : String) :
    (definitions.Decided (invocation.keyUnder settings environmentId) →
      ∀ first second, definitions.SameRecords first → others.SameRecords second →
        ∀ here there : Circumstances, here.Serve first → there.Serve second →
          tell settings first here invocation environmentId =
            tell settings second there invocation environmentId) ∧
    ∀ first, definitions.SameRecords first → ∃ second, others.SameRecords second ∧
      ∀ here there : Circumstances, here.Serve first → there.Serve second →
        tell settings first here invocation environmentId =
          tell settings second there invocation environmentId := by
  constructor
  · intro decided first second sameFirst sameSecond here there
    apply tell_eq_of_masked_load_eq
    rw [sameFirst.load_eq_of_decided decided,
      sameSecond.load_eq_of_decided (alike.decided decided), ← ContextKey.load_masked,
      ← ContextKey.load_masked, alike.masked_reader_eq]
  · intro first same
    obtain ⟨second, sameSecond, alikeThere⟩ := alike.exists_order same
    refine ⟨second, sameSecond, fun here there => tell_eq_of_masked_load_eq settings ?_⟩
    rw [← ContextKey.load_masked, ← ContextKey.load_masked, alikeThere]

/-- An action on a store, with 20 milliseconds to run. -/
def storeAction (id base : String) (branch : Option String) (configuration : Json) :
    String × Action :=
  (id, ⟨id, base, "shop", branch, id, "echo", ⟨"store", configuration, some 20⟩, none⟩)

/-- A store with credentials, and an action with two copies: one that fails and one that takes too
long. -/
def storeDefinitions (credentials : Json) : Definitions where
  applications := .ofList [("shop", ⟨"shop", "Shop", some "main", ["busy", "slow"]⟩)]
  actions := .ofList [
    storeAction "list" "list" none (.obj []),
    storeAction "fail" "list" (some "busy") (.obj [("failWith", .str "busy")]),
    storeAction "wait" "list" (some "slow") (.obj [("sleepMs", .ofInt 30)])]
  datasources := .ofList [("store", ⟨"store", "Store", "echo",
    [("production", ⟨.obj [("host", .str "localhost")], credentials⟩)]⟩)]

/-- Stores with credentials that differ in secrets differ in nothing else. -/
theorem storeDefinitions_differInCredentials {first second : Json}
    (alike : first.DifferInSecrets second) :
    (storeDefinitions first).DifferInCredentials (storeDefinitions second) where
  applications := rfl
  actions := rfl
  datasources := .cons ⟨rfl, rfl, rfl, rfl, .cons ⟨rfl, rfl, alike⟩ .nil⟩ .nil

/-- A first call. -/
def firstCall (executionId : String) : Circumstances :=
  ⟨[], .first, 0, ⟨default, fun waitMs => waitMs + executionId.length, executionId⟩,
    fun _ => .ok ""⟩

/-- A call after the copy was resolved and kept. -/
def laterCall (definitions : Definitions) (key : ContextKey) (executionId : String) :
    Circumstances :=
  { firstCall executionId with
    history := [.resolve ⟨60, 1, .first⟩ definitions.reader 0 key]
    nowMs := 7 }

/-- The copy that takes too long is told alike, over stores that hold the actions in opposite
orders. -/
theorem tell_eq_reversed :
    let secrets := Json.obj [("keys", .arr [.ofInt 1, .null]), ("password", .str "swordfish")]
    let others := Json.obj [("keys", .arr [.str "seven", .null]), ("password", .bool true)]
    let invocation := { Invocation.ofAction "list" with branchName := some "slow" }
    let key := invocation.keyUnder .standard ""
    let here := firstCall "a"
    let there := laterCall (storeDefinitions others).reversed key "bb"
    (storeDefinitions secrets).DifferInCredentials (storeDefinitions others) ∧
      (storeDefinitions secrets).Decided key ∧ here.Serve (storeDefinitions secrets) ∧
      there.Serve (storeDefinitions others).reversed ∧
      tell .standard (storeDefinitions secrets) here invocation "" =
        tell .standard (storeDefinitions others).reversed there invocation "" := by
  intro secrets others invocation key here there
  have differ : secrets.DifferInSecrets others :=
    .fields (.cons (.items (.cons (.secret rfl rfl) (.cons .null .nil)))
      (.cons (.secret rfl rfl) .nil))
  have alike := storeDefinitions_differInCredentials differ
  have regular : (storeDefinitions secrets).Regular := by decide
  have serveHere : here.Serve (storeDefinitions secrets) := nofun
  have serveThere : there.Serve (storeDefinitions others).reversed :=
    List.forall_mem_singleton.mpr rfl
  refine ⟨alike, regular.decided key, serveHere, serveThere, ?_⟩
  exact (tell_eq_of_differInCredentials .standard alike invocation "").1 (regular.decided key) _ _
    (.refl _) (Definitions.sameRecords_reversed _) here there serveHere serveThere

end Echo

end ActionGateway
