import ActionGateway.Proofs.CacheEntries
import ActionGateway.Proofs.Loading
import ActionGateway.Proofs.Sessions

/-!
# Sessions that are told of every change

When each record that is written is followed by its invalidation, a cache cannot be told from no
cache. A context depends on up to four records, and the invalidation of a record looks only at some
ids of a context. What it leaves is unaffected nevertheless, as long as a branch has one copy of an
action and versions of one action belong to one application.
-/

namespace ActionGateway

/-- Two actions have one base, or one is the base of the other. -/
def Action.Linked (first second : Action) : Prop :=
  first.baseId = second.baseId ∨ first.baseId = second.id ∨ second.baseId = first.id
  deriving Decidable

namespace Definitions

/-- The actions that are held, whether on the default line or on a branch. -/
def allActions (definitions : Definitions) : List Action :=
  definitions.actions.entries.map Prod.snd

/-- **Regular definitions.** A base has one version on a branch, and linked actions belong to one
application. -/
structure Regular (definitions : Definitions) : Prop where
  oneVersion : ∀ first ∈ definitions.allActions, ∀ second ∈ definitions.allActions,
    first.baseId = second.baseId → first.branchName = second.branchName → first = second
  oneApplication : ∀ first ∈ definitions.allActions, ∀ second ∈ definitions.allActions,
    first.Linked second → first.applicationId = second.applicationId

instance (definitions : Definitions) : Decidable definitions.Regular :=
  decidable_of_iff
    ((∀ first ∈ definitions.allActions, ∀ second ∈ definitions.allActions,
      first.baseId = second.baseId → first.branchName = second.branchName → first = second) ∧
    ∀ first ∈ definitions.allActions, ∀ second ∈ definitions.allActions,
      first.Linked second → first.applicationId = second.applicationId)
    ⟨fun regular => ⟨regular.1, regular.2⟩, fun regular => ⟨regular.1, regular.2⟩⟩

variable {definitions before after : Definitions} {requested action : Action}
  {branch : Option String}

/-- An action that is found is among all actions. -/
theorem mem_allActions_of_action?_eq_some {id : String}
    (found : definitions.action? id = some action) : action ∈ definitions.allActions :=
  List.mem_map_of_mem ((OrderedMap.get?_eq_some_iff_mem _ _ _).mp found)

/-- The same actions are held in every order. -/
theorem SameRecords.mem_allActions_iff (same : before.SameRecords after) (action : Action) :
    action ∈ after.allActions ↔ action ∈ before.allActions :=
  (same.actions.map Prod.snd).mem_iff.symm

/-- In filed definitions the held actions are those that are found under their own id. -/
theorem Filed.mem_allActions_iff (filed : definitions.Filed) (action : Action) :
    action ∈ definitions.allActions ↔ definitions.action? action.id = some action := by
  unfold allActions action?
  rw [List.mem_map]
  constructor
  · rintro ⟨⟨id, held⟩, member, rfl⟩
    have found := (OrderedMap.get?_eq_some_iff_mem _ _ _).mpr member
    rw [filed.actions id held found]
    exact found
  · intro found
    exact List.mem_map.mp (mem_allActions_of_action?_eq_some found)

/-- A copy on a branch is a held action with that base and that branch. -/
theorem of_copyOnBranch?_eq_some {base name : String}
    (found : definitions.copyOnBranch? base name = some action) :
    action ∈ definitions.allActions ∧ action.baseId = base ∧ action.branchName = some name := by
  unfold copyOnBranch? at found
  obtain ⟨entry, first, rfl⟩ := Option.map_eq_some_iff.mp found
  have matching := List.find?_some first
  rw [Bool.and_eq_true, beq_iff_eq, beq_iff_eq] at matching
  exact ⟨List.mem_map_of_mem (List.mem_of_find?_eq_some first), matching⟩

/-- The only copy of a base on a branch is the one that is found. -/
theorem copyOnBranch?_eq_some_of_only {base name : String}
    (member : action ∈ definitions.allActions) (based : action.baseId = base)
    (named : action.branchName = some name)
    (only : ∀ other ∈ definitions.allActions, other.baseId = base →
      other.branchName = some name → other = action) :
    definitions.copyOnBranch? base name = some action := by
  cases found : definitions.copyOnBranch? base name with
  | some other =>
      obtain ⟨held, otherBase, onBranch⟩ := of_copyOnBranch?_eq_some found
      rw [only other held otherBase onBranch]
  | none =>
      obtain ⟨entry, present, rfl⟩ := List.mem_map.mp member
      unfold copyOnBranch? at found
      have absent := List.find?_eq_none.mp (Option.map_eq_none_iff.mp found) entry present
      exact (absent (by rw [based, named, beq_self_eq_true, beq_self_eq_true, Bool.and_self])).elim

/-- In regular definitions it is the only one. -/
theorem Regular.copyOnBranch?_eq_some (regular : definitions.Regular) {name : String}
    (member : action ∈ definitions.allActions) (named : action.branchName = some name) :
    definitions.copyOnBranch? action.baseId name = some action :=
  copyOnBranch?_eq_some_of_only member rfl named fun other held base onBranch =>
    regular.oneVersion other held action member base (onBranch.trans named.symm)

/-- The selected version is held, and linked to the requested action. -/
theorem Selects.linked (selects : definitions.Selects requested branch action)
    (filed : definitions.Filed) (held : requested ∈ definitions.allActions) :
    action ∈ definitions.allActions ∧ requested.Linked action := by
  cases selects with
  | itself | onBranch _ | defaultLine _ _ _ _ => exact ⟨held, .inl rfl⟩
  | base _ _ _ _ found =>
      have id : action.id = requested.baseId := filed.actions _ _ found
      exact ⟨mem_allActions_of_action?_eq_some found, .inr (.inl id.symm)⟩
  | copy _ _ _ _ found =>
      obtain ⟨copied, base, -⟩ := of_copyOnBranch?_eq_some found
      exact ⟨copied, .inl base.symm⟩

/-- A branch still stands for the same version after a change that leaves the application of the
requested action and the version itself alone. -/
theorem Selects.carry (selects : before.Selects requested branch action) (filed : before.Filed)
    (regular : after.Regular)
    (owner : after.application? requested.applicationId =
      before.application? requested.applicationId)
    (held : after.action? action.id = some action) :
    after.Selects requested branch action := by
  cases selects with
  | itself => exact .itself
  | onBranch same => exact .onBranch same
  | defaultLine other owned main line => exact .defaultLine other (owner.trans owned) main line
  | base other owned main line found =>
      have id : action.id = requested.baseId := filed.actions _ _ found
      exact .base other (owner.trans owned) main line (id ▸ held)
  | copy other owned main listed found =>
      obtain ⟨-, base, named⟩ := of_copyOnBranch?_eq_some found
      have still := mem_allActions_of_action?_eq_some held
      exact .copy other (owner.trans owned) main listed
        (base ▸ regular.copyOnBranch?_eq_some still named)

/-- A key keeps its context through a change that leaves the records alone that were looked up. -/
theorem load_carry (filed : before.Filed) (regular : after.Regular)
    {key : ContextKey} {context : ResolvedContext}
    (loaded : key.load before.reader = .ok context)
    (asked : before.action? key.actionId = some requested)
    (stillAsked : after.action? key.actionId = some requested)
    (owner : after.application? requested.applicationId =
      before.application? requested.applicationId)
    (selected : after.action? context.action.id = some context.action)
    (source : after.datasource? context.definition.datasourceId =
      before.datasource? context.definition.datasourceId) :
    key.load after.reader = .ok context := by
  obtain ⟨⟨asking, found, selects⟩, provides⟩ :=
    (ContextKey.load_eq_ok_iff before key context).mp loaded
  obtain rfl : requested = asking := Option.some.inj (asked.symm.trans found)
  apply (ContextKey.load_eq_ok_iff after key context).mpr
  refine ⟨⟨requested, stillAsked, selects.carry filed regular owner selected⟩, ?_⟩
  exact { provides with datasource := source.trans provides.datasource }

/-- **What an invalidation leaves is unaffected.** A context that the invalidation of a record does
not concern is the context of its key after the record was written as well. -/
theorem load_put (filed : before.Filed) (record : DefinitionRecord)
    (regular : (before.put record).Regular) {key : ContextKey} {context : ResolvedContext}
    (loaded : key.load before.reader = .ok context)
    (unconcerned : record.invalidation.concerns key context = false) :
    key.load (before.put record).reader = .ok context := by
  obtain ⟨⟨requested, asked, selects⟩, provides⟩ :=
    (ContextKey.load_eq_ok_iff before key context).mp loaded
  have held := mem_allActions_of_action?_eq_some asked
  obtain ⟨selectedHeld, linked⟩ := selects.linked filed held
  have selected := (filed.mem_allActions_iff context.action).mp selectedHeld
  cases record with
  | action written =>
      simp only [DefinitionRecord.invalidation, Invalidation.concerns, Bool.or_eq_false_iff,
        beq_eq_false_iff_ne] at unconcerned
      obtain ⟨⟨otherKey, other⟩, -⟩ := unconcerned
      refine load_carry filed regular loaded asked ?_ rfl ?_ rfl
      · exact (action?_putAction ..).trans (by rw [if_neg otherKey, asked])
      · exact (action?_putAction ..).trans (by rw [if_neg other, selected])
  | application written =>
      have other : context.action.applicationId ≠ written.id := beq_eq_false_iff_ne.mp unconcerned
      -- The application that was looked up is that of the requested action, but the invalidation
      -- looks at that of the selected one.
      have same := regular.oneApplication requested held context.action selectedHeld linked
      refine load_carry filed regular loaded asked asked ?_ selected rfl
      exact (application?_putApplication ..).trans (if_neg (same ▸ other))
  | datasource written =>
      have other : context.datasource.id ≠ written.id := beq_eq_false_iff_ne.mp unconcerned
      have source : context.datasource.id = context.definition.datasourceId :=
        filed.datasources _ _ provides.datasource
      refine load_carry filed regular loaded asked asked rfl selected ?_
      exact (datasource?_putDatasource ..).trans (if_neg (source ▸ other))

end Definitions

namespace Session

/-- **Coherent session.** Every entry is the context that the definitions give. -/
structure Coherent (session : Session) : Prop where
  filed : session.definitions.Filed
  current : ∀ entry ∈ session.cache.entries,
    entry.1.load session.definitions.reader = .ok entry.2.context

variable {policy : CachePolicy} {session : Session}

/-- A coherent session answers as the definitions do. -/
theorem Coherent.answer?_eq (coherent : session.Coherent) (step : SessionStep) :
    session.answer? policy step = session.definitions.answer? step := by
  cases step with
  | put _ | invalidate _ | advance _ => rfl
  | resolve key =>
      exact congrArg some
        (ContextCache.resolve_fst_eq_load session.cache policy session.now key coherent.current)

/-- A resolution keeps only what the definitions give. -/
theorem Coherent.resolve (coherent : session.Coherent) (key : ContextKey) :
    (session.next policy (.resolve key)).Coherent := by
  refine ⟨coherent.filed, fun entry member => ?_⟩
  simp only [next] at member
  cases found : session.cache.find? policy session.now key with
  | some context =>
      rw [ContextCache.resolve_of_kept _ _ _ found] at member
      exact coherent.current entry member
  | none =>
      cases loaded : key.load session.definitions.reader with
      | error reason =>
          rw [ContextCache.resolve_of_refused _ _ _ found loaded] at member
          exact coherent.current entry member
      | ok context =>
          rw [ContextCache.resolve_of_loaded _ _ _ found loaded] at member
          rcases ContextCache.mem_entries_keep session.cache.countMiss policy session.now member
            with rfl | ⟨earlier, -⟩
          · exact loaded
          · exact coherent.current entry earlier

/-- Invalidating keeps a session coherent. -/
theorem Coherent.invalidate (coherent : session.Coherent) (invalidation : Invalidation) :
    (session.next policy (.invalidate invalidation)).Coherent := by
  refine ⟨coherent.filed, fun entry member => ?_⟩
  exact coherent.current entry
    ((ContextCache.mem_entries_invalidate session.cache invalidation entry).mp member).1

/-- A record that is written and then invalidated leaves a session coherent. -/
theorem Coherent.update (coherent : session.Coherent) (record : DefinitionRecord)
    (regular : (session.definitions.put record).Regular) :
    ((session.next policy (.put record)).next policy
      (.invalidate record.invalidation)).Coherent := by
  refine ⟨coherent.filed.put record, fun entry member => ?_⟩
  obtain ⟨earlier, unconcerned⟩ :=
    (ContextCache.mem_entries_invalidate session.cache record.invalidation entry).mp member
  exact Definitions.load_put coherent.filed record regular (coherent.current entry earlier)
    unconcerned

/-- **Maintained steps.** Each record that is written is followed by its invalidation at once. -/
inductive Maintained : List SessionStep → Prop where
  | done : Maintained []
  | resolve (key : ContextKey) {rest : List SessionStep} :
      Maintained rest → Maintained (.resolve key :: rest)
  | update (record : DefinitionRecord) {rest : List SessionStep} :
      Maintained rest → Maintained (.put record :: .invalidate record.invalidation :: rest)
  | invalidate (invalidation : Invalidation) {rest : List SessionStep} :
      Maintained rest → Maintained (.invalidate invalidation :: rest)
  | advance (ms : Nat) {rest : List SessionStep} :
      Maintained rest → Maintained (.advance ms :: rest)

/-- The answers of a coherent session that is maintained are those of its definitions. -/
theorem Coherent.answers_eq {steps : List SessionStep} (coherent : session.Coherent)
    (maintained : Maintained steps)
    (regular : ∀ definitions ∈ session.definitions.along steps, definitions.Regular) :
    session.answers policy steps = session.definitions.answers steps := by
  induction maintained generalizing session with
  | done => rfl
  | resolve key _ ih =>
      rw [answers, Definitions.answers, coherent.answer?_eq,
        ih (coherent.resolve key) fun definitions member => regular definitions (.tail _ member)]
      rfl
  | update record _ ih =>
      -- Between the two steps an entry may be outdated, but nothing is resolved.
      have written := regular (session.definitions.put record) (.tail _ (.head _))
      exact ih (coherent.update record written) fun definitions member =>
        regular definitions (.tail _ (.tail _ member))
  | invalidate invalidation _ ih =>
      exact ih (coherent.invalidate invalidation) fun definitions member =>
        regular definitions (.tail _ member)
  | advance ms _ ih =>
      exact ih ⟨coherent.filed, coherent.current⟩ fun definitions member =>
        regular definitions (.tail _ member)

/-- **A cache that is told of every change cannot be told from none.** Whatever it may keep and for
how long, each resolution has the answer that the definitions give at that moment. -/
theorem answers_eq_uncached (policy : CachePolicy) (records : List DefinitionRecord)
    (steps : List SessionStep) (maintained : Maintained steps)
    (regular : ∀ definitions ∈ (Definitions.ofRecords records).along steps, definitions.Regular) :
    (initial (.ofRecords records)).answers policy steps =
      (Definitions.ofRecords records).answers steps :=
  Coherent.answers_eq
    ⟨Definitions.filed_ofRecords records, fun _ member => (List.not_mem_nil member).elim⟩
    maintained regular

/-- The copy of the report is resolved, changed and resolved again. -/
def previewSteps : List SessionStep := [
  .resolve Report.previewKey, .advance 10,
  .put (.action { Report.preview with draft := ⟨"orders", .null, some 5⟩ }),
  .invalidate (.action "report-preview"), .resolve Report.previewKey]

theorem answers_eq_uncached_preview :
    Maintained previewSteps ∧
      (∀ definitions ∈ (Definitions.ofRecords Report.records).along previewSteps,
        definitions.Regular) ∧
      (initial (.ofRecords Report.records)).answers ⟨1000, 1, .first⟩ previewSteps =
        (Definitions.ofRecords Report.records).answers previewSteps := by
  have maintained : Maintained previewSteps :=
    .resolve _ <| .advance _ <| .update (.action _) <| .resolve _ .done
  have regular : ∀ definitions ∈ (Definitions.ofRecords Report.records).along previewSteps,
      definitions.Regular := by
    decide
  exact ⟨maintained, regular, answers_eq_uncached _ _ _ maintained regular⟩

end Session

end ActionGateway
