import ActionGateway.Proofs.RecordOrders

/-!
# Invalidation of an application

A context goes with the application that its action belongs to. The application of the action that
was asked for has a say in it too, since its branches decide which version is selected, but that
application is not looked at. The two are one as long as the versions of an action belong to one
application. A manifest may base an action on one of another application, and then a call can get
from the one to the other. What is kept for such a call outlasts the invalidation.
-/

namespace ActionGateway

/-- A call for a context, and the time when it comes. -/
structure TimedCall where
  actionId : String
  branch : Option String
  environmentId : String
  viewMode : ViewMode
  nowMs : Nat

namespace Gateway

/-- The key that a call asks for. -/
def keyOf (gateway : Gateway) (call : TimedCall) : ContextKey :=
  .ofCall gateway.settings.defaultEnvironment call.actionId call.branch call.environmentId
    call.viewMode

/-- **The cache after calls**, one after the other. -/
def cacheAfter (gateway : Gateway) (surroundings : Surroundings) (calls : List TimedCall) :
    ContextCache :=
  calls.foldl (fun cache call =>
    (gateway.resolve { surroundings with nowMs := call.nowMs } cache call.actionId call.branch
      call.environmentId call.viewMode).2) .empty

end Gateway

namespace Definitions

/-- **The key leads out of the application.** It asks for an action of the application, its branch
stands for an action of another one, and there is a context for that. -/
structure LeadsOut (definitions : Definitions) (application : String) (key : ContextKey)
    (requested : Action) (context : ResolvedContext) : Prop where
  asked : definitions.action? key.actionId = some requested
  owned : requested.applicationId = application
  selects : definitions.Selects requested key.branch context.action
  provides : definitions.Provides key context
  elsewhere : context.action.applicationId ≠ application

variable {definitions : Definitions} {application : String} {key : ContextKey} {requested : Action}
  {context : ResolvedContext}

/-- A key leads out by a branch, and to an action of the same base or to the base. -/
theorem LeadsOut.linked (leads : definitions.LeadsOut application key requested context)
    (filed : definitions.Filed) :
    requested ∈ definitions.allActions ∧ context.action ∈ definitions.allActions ∧
      requested.Linked context.action := by
  have held := mem_allActions_of_action?_eq_some leads.asked
  exact ⟨held, leads.selects.linked filed held⟩

end Definitions

namespace Gateway

variable {gateway : Gateway} {surroundings : Surroundings} {definitions : Definitions}
  {application : String} {requested : Action} {entry : ContextKey × CachedContext}

/-- What is kept was loaded for a call. -/
theorem exists_call_of_mem_cacheAfter {calls : List TimedCall}
    (member : entry ∈ (gateway.cacheAfter surroundings calls).entries) :
    ∃ call ∈ calls, gateway.keyOf call = entry.1 ∧
      entry.1.load surroundings.reader = .ok entry.2.context := by
  let event (call : TimedCall) : CacheEvent :=
    .resolve gateway.policy surroundings.reader call.nowMs (gateway.keyOf call)
  have history : gateway.cacheAfter surroundings calls = .after (calls.map event) := by
    rw [ContextCache.after, List.foldl_map]
    rfl
  rw [history] at member
  obtain ⟨read, past, reads⟩ := ContextCache.exists_reads_of_mem_after _ member
  obtain ⟨call, present, rfl⟩ := List.mem_map.mp past
  obtain ⟨asked, loaded⟩ := reads
  exact ⟨call, present, asked, asked ▸ loaded⟩

/-- A call for which there is a context has it kept. -/
theorem exists_mem_cacheAfter_of_load {call : TimedCall} {context : ResolvedContext}
    (loaded : (gateway.keyOf call).load surroundings.reader = .ok context) :
    (gateway.keyOf call, ⟨context, call.nowMs⟩) ∈
      (gateway.cacheAfter surroundings [call]).entries := by
  have missed : ContextCache.empty.find? gateway.policy call.nowMs
      (gateway.keyOf call) = none := rfl
  have resolved := ContextCache.resolve_of_loaded .empty gateway.policy call.nowMs
    missed loaded
  change _ ∈ (ContextCache.resolve .empty gateway.policy surroundings.reader
    call.nowMs (gateway.keyOf call)).2.entries
  rw [resolved]
  exact List.mem_cons_self

/-- **What an invalidation leaves of an application**: exactly what was kept for keys that lead out
of it. -/
theorem mem_invalidate_cacheAfter_iff (calls : List TimedCall)
    (asked : definitions.action? entry.1.actionId = some requested)
    (owned : requested.applicationId = application) :
    entry ∈ ((gateway.cacheAfter (surroundings.over definitions) calls).invalidate
        (.application application)).entries ↔
      entry ∈ (gateway.cacheAfter (surroundings.over definitions) calls).entries ∧
        definitions.LeadsOut application entry.1 requested entry.2.context := by
  rw [ContextCache.mem_entries_invalidate]
  refine and_congr_right fun member => ?_
  obtain ⟨call, -, -, loaded⟩ := exists_call_of_mem_cacheAfter member
  obtain ⟨⟨found, sameAsked, selects⟩, provides⟩ :=
    (ContextKey.load_eq_ok_iff definitions _ _).mp loaded
  cases asked.symm.trans sameAsked
  rw [Invalidation.concerns, beq_eq_false_iff_ne]
  exact ⟨fun elsewhere => ⟨asked, owned, selects, provides, elsewhere⟩,
    fun leads => leads.elsewhere⟩

/-- **What the invalidation of an application misses.** After any calls over the definitions of a
manifest it leaves, of the contexts of actions of the application, exactly those that were kept for
keys that lead out of it. So it leaves one after some calls if and only if some call leads out of
the application. If linked actions belong to one application it leaves none. -/
theorem application_invalidation_misses_iff (gateway : Gateway) (surroundings : Surroundings)
    (manifest : Manifest) (application : String) :
    let definitions := Definitions.ofManifest manifest
    let kept := gateway.cacheAfter (surroundings.over definitions)
    let left := fun calls => ((kept calls).invalidate (.application application)).entries
    (∀ calls entry requested, definitions.action? entry.1.actionId = some requested →
      requested.applicationId = application →
      (entry ∈ left calls ↔ entry ∈ (kept calls).entries ∧
        definitions.LeadsOut application entry.1 requested entry.2.context)) ∧
    ((∃ calls, ∃ entry ∈ left calls, ∃ requested,
      definitions.action? entry.1.actionId = some requested ∧
        requested.applicationId = application) ↔
      ∃ call requested context,
        definitions.LeadsOut application (gateway.keyOf call) requested context) ∧
    ((∀ first ∈ manifest.actions, ∀ second ∈ manifest.actions,
        first.Linked second → first.applicationId = second.applicationId) →
      ∀ calls, ∀ entry ∈ left calls, ∀ requested,
        definitions.action? entry.1.actionId = some requested →
        requested.applicationId ≠ application) := by
  intro definitions kept left
  have filed : definitions.Filed := Definitions.filed_ofManifest manifest
  have member {action : Action} (held : action ∈ definitions.allActions) :
      action ∈ manifest.actions :=
    Definitions.mem_actions_of_action?_ofManifest ((filed.mem_allActions_iff action).mp held)
  have exactly (calls : List TimedCall) {entry : ContextKey × CachedContext} {requested : Action}
      (asked : definitions.action? entry.1.actionId = some requested)
      (owned : requested.applicationId = application) :
      entry ∈ left calls ↔ entry ∈ (kept calls).entries ∧
        definitions.LeadsOut application entry.1 requested entry.2.context :=
    mem_invalidate_cacheAfter_iff calls asked owned
  refine ⟨fun calls entry requested => exactly calls, ⟨?_, ?_⟩, ?_⟩
  · rintro ⟨calls, entry, remains, requested, asked, owned⟩
    obtain ⟨present, leads⟩ := (exactly calls asked owned).mp remains
    obtain ⟨call, -, own, -⟩ := exists_call_of_mem_cacheAfter present
    exact ⟨call, requested, entry.2.context, own ▸ leads⟩
  · rintro ⟨call, requested, context, leads⟩
    have loaded : (gateway.keyOf call).load definitions.reader = .ok context := by
      rw [ContextKey.load_eq_ok_iff]
      exact ⟨⟨requested, leads.asked, leads.selects⟩, leads.provides⟩
    let entry : ContextKey × CachedContext := (gateway.keyOf call, ⟨context, call.nowMs⟩)
    have present : entry ∈ (kept [call]).entries := exists_mem_cacheAfter_of_load loaded
    have asked : definitions.action? entry.1.actionId = some requested := leads.asked
    exact ⟨[call], entry, (exactly [call] asked leads.owned).mpr ⟨present, leads⟩, requested, asked,
      leads.owned⟩
  · intro together calls entry remains requested asked owned
    obtain ⟨-, leads⟩ := (exactly calls asked owned).mp remains
    obtain ⟨held, other, linked⟩ := leads.linked filed
    exact leads.elsewhere ((together _ (member held) _ (member other) linked).symm.trans owned)

/-! ## A copy in another application

A manifest with one action and a copy of it that belongs to another application. -/

def strayContent : String :=
  "[[[\"a\",\"\",\"main\"],[\"b\",\"\",\"main\",[\"dev\"]]],[[\"d\",\"\",\"q\",\x7b\"e\":" ++
    "[]\x7d]]," ++
    "[[\"r\",null,\"a\",null,\"\",\"q\",[\"d\"]],[\"c\",\"r\",\"b\",\"dev\",\"\",\"q\",[\"d\"]]]]"

/-- The copy, moved to another application than its base. -/
def stray : Action := { copied with applicationId := "b" }

def strayManifest : Manifest where
  applications := [⟨"a", "", some "main", []⟩, ⟨"b", "", some "main", ["dev"]⟩]
  datasources := copyManifest.datasources
  actions := [original, stray]

set_option maxRecDepth 20000 in
/-- The manifest of the stray copy is accepted. -/
theorem parse_strayContent :
    Manifest.parse ⟨[], fun _ => none⟩ strayContent .json = .ok strayManifest :=
  Manifest.parse_of_toOption (by decide +kernel)

/-- The copy is called on the default branch. -/
def strayCall : TimedCall := ⟨"c", some "main", "e", .edit, 0⟩

/-- After the application of the copy was invalidated, a context of the copy is left. -/
theorem stray_context_outlasts_invalidation :
    Manifest.parse ⟨[], fun _ => none⟩ strayContent .json = .ok strayManifest ∧
      (Definitions.ofManifest strayManifest).action? "c" = some stray ∧
      stray.applicationId = "b" ∧
      (((copyGateway.cacheAfter (copySurroundings.over (.ofManifest strayManifest))
          [strayCall]).invalidate (.application "b")).entries.map fun entry =>
        (entry.1.actionId, entry.2.context.action)) = [("c", original)] :=
  ⟨parse_strayContent, by decide, rfl, by decide⟩

end Gateway

end ActionGateway
