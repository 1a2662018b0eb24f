import ActionGateway.Execution.Gateway
import ActionGateway.Proofs.AcceptedManifests
import ActionGateway.Proofs.CacheHistories
import ActionGateway.Proofs.CoherentSessions

/-!
# Resolving over an accepted manifest

The check of a manifest and the resolution of a context are about the same references. Over what an
accepted manifest defines no reference dangles, so a resolution fails only for what its caller asks
for: an action, a branch, a copy, a published side or an environment that is not there.

A branch is asked for without the blank space around it, while a manifest may list it with any.
Such a branch is never found.
-/

namespace ActionGateway

namespace Definitions

/-- **Closed definitions.** What an action refers to is defined. -/
structure Closed (definitions : Definitions) : Prop where
  owned : ∀ action ∈ definitions.allActions, ∃ application,
    definitions.application? action.applicationId = some application
  based : ∀ action ∈ definitions.allActions, ∃ base, definitions.action? action.baseId = some base
  sourced : ∀ action ∈ definitions.allActions,
    ∀ definition ∈ action.draft :: action.published.toList, ∃ datasource,
      definitions.datasource? definition.datasourceId = some datasource

/-- The version of an action that a key asks for. -/
def Asks (definitions : Definitions) (key : ContextKey) (selected : Action) : Prop :=
  ∃ requested, definitions.action? key.actionId = some requested ∧
    definitions.Selects requested key.branch selected

/-- A key leads to a datasource by way of the version of an action, and of one side of it. -/
structure Reaches (definitions : Definitions) (key : ContextKey) (selected : Action)
    (definition : ActionDefinition) (datasource : Datasource) : Prop where
  asks : definitions.Asks key selected
  side : selected.definition? key.viewMode = some definition
  source : definitions.datasource? definition.datasourceId = some datasource

/-- The branch of a key is another than the default branch of the application that the requested
action belongs to. -/
structure LeavesMain (definitions : Definitions) (key : ContextKey) (requested : Action)
    (application : Application) (branch : String) : Prop where
  asked : definitions.action? key.actionId = some requested
  named : key.branch = some branch
  owner : definitions.application? requested.applicationId = some application
  other : application.isDefaultBranch branch = false

/-- **The answers of closed definitions**, each with what it is given for. -/
inductive Answers (definitions : Definitions) (key : ContextKey) :
    Except Rejection ResolvedContext → Prop where
  | unknown :
      definitions.action? key.actionId = none →
      Answers definitions key (.error (.actionNotFound (.unknown key.actionId)))
  | noBranch {requested : Action} {application : Application} {branch : String} :
      definitions.LeavesMain key requested application branch →
      application.hasBranch branch = false →
      Answers definitions key (.error (.branchNotFound application.id branch))
  | noCopy {requested : Action} {application : Application} {branch : String} :
      definitions.LeavesMain key requested application branch →
      application.hasBranch branch = true →
      (∀ action ∈ definitions.allActions,
        ¬(action.baseId = requested.baseId ∧ action.branchName = some branch)) →
      Answers definitions key (.error (.actionNotFound (.notOnBranch requested.baseId branch)))
  | unpublished {selected : Action} :
      definitions.Asks key selected → key.viewMode = .view → selected.published = none →
      Answers definitions key (.error (.actionNotFound (.notPublished selected.id)))
  | unconfigured {selected : Action} {definition : ActionDefinition} {datasource : Datasource} :
      definitions.Reaches key selected definition datasource →
      datasource.storage? key.environmentId = none →
      Answers definitions key
        (.error (.environmentNotConfigured datasource.id key.environmentId))
  | context {selected : Action} {definition : ActionDefinition} {datasource : Datasource}
      {storage : Storage} :
      definitions.Reaches key selected definition datasource →
      datasource.storage? key.environmentId = some storage →
      Answers definitions key (.ok {
        action := selected
        definition := definition
        viewMode := key.viewMode
        datasource := datasource
        environmentId := key.environmentId
        storage := storage })

variable {definitions : Definitions} {key : ContextKey} {requested selected : Action}

/-- No copy is found on a branch just when none stands there. -/
theorem copyOnBranch?_eq_none_iff (base branch : String) :
    definitions.copyOnBranch? base branch = none ↔
      ∀ action ∈ definitions.allActions,
        ¬(action.baseId = base ∧ action.branchName = some branch) := by
  simp only [copyOnBranch?, allActions, Option.map_eq_none_iff, List.find?_eq_none,
    Bool.and_eq_true, beq_iff_eq, List.forall_mem_map]

/-- Definitions are closed in every order if they are in one. -/
theorem SameRecords.closed {first second : Definitions} (same : first.SameRecords second)
    (closed : first.Closed) : second.Closed where
  owned action held := by
    rw [same.application?]
    exact closed.owned action ((same.mem_allActions_iff action).mp held)
  based action held := by
    rw [same.action?]
    exact closed.based action ((same.mem_allActions_iff action).mp held)
  sourced action held definition side := by
    rw [same.datasource?]
    exact closed.sourced action ((same.mem_allActions_iff action).mp held) definition side

namespace Closed

/-- Given the version that is asked for, its datasource is found. -/
theorem answers_contextOf (closed : definitions.Closed) (held : selected ∈ definitions.allActions)
    (asks : definitions.Asks key selected) :
    definitions.Answers key ((key.contextOf selected).run definitions.reader) := by
  unfold ContextKey.contextOf
  cases side : selected.definition? key.viewMode with
  | none =>
      cases mode : key.viewMode with
      | edit =>
          rw [mode] at side
          exact nomatch side
      | view =>
          rw [mode] at side
          exact .unpublished asks mode side
  | some definition =>
      obtain ⟨datasource, source⟩ :=
        closed.sourced selected held definition (Action.mem_sides_of_definition? side)
      have reaches : definitions.Reaches key selected definition datasource := ⟨asks, side, source⟩
      simp only [Reading.run, Definitions.reader, source]
      cases stored : datasource.storage? key.environmentId with
      | none => exact .unconfigured reaches stored
      | some storage => exact .context reaches stored

/-- The version on a branch is found, unless the application lacks the branch or the branch the
version. -/
theorem run_onBranch_cases (closed : definitions.Closed)
    (held : requested ∈ definitions.allActions) (branch : String) :
    (∃ selected, (ContextKey.onBranch requested branch).run definitions.reader = .ok selected) ∨
    ∃ application, definitions.application? requested.applicationId = some application ∧
      application.isDefaultBranch branch = false ∧
      ((application.hasBranch branch = false ∧
        (ContextKey.onBranch requested branch).run definitions.reader =
          .error (.branchNotFound application.id branch)) ∨
      (application.hasBranch branch = true ∧
        definitions.copyOnBranch? requested.baseId branch = none ∧
        (ContextKey.onBranch requested branch).run definitions.reader =
          .error (.actionNotFound (.notOnBranch requested.baseId branch)))) := by
  have found {selected : Action} (selects : definitions.Selects requested (some branch) selected) :
      ∃ selected, (ContextKey.onBranch requested branch).run definitions.reader = .ok selected :=
    ⟨selected, (ContextKey.run_onBranch_eq_ok_iff definitions _ _ _).mpr selects⟩
  by_cases same : requested.branchName = some branch
  · exact .inl (found (.onBranch same))
  obtain ⟨application, owner⟩ := closed.owned requested held
  -- The default branch always has a version, so what is missing is missing on another branch.
  cases main : application.isDefaultBranch branch with
  | true =>
      cases line : requested.isDefaultLine with
      | true => exact .inl (found (.defaultLine same owner main line))
      | false =>
          obtain ⟨base, based⟩ := closed.based requested held
          exact .inl (found (.base same owner main line based))
  | false =>
      cases listed : application.hasBranch branch with
      | false =>
          refine .inr ⟨application, owner, main, .inl ⟨listed, ?_⟩⟩
          simp [ContextKey.onBranch, same, Reading.run, Definitions.reader, owner, main, listed]
      | true =>
          cases copied : definitions.copyOnBranch? requested.baseId branch with
          | some copy => exact .inl (found (.copy same owner main listed copied))
          | none =>
              refine .inr ⟨application, owner, main, .inr ⟨listed, rfl, ?_⟩⟩
              simp [ContextKey.onBranch, same, Reading.run, Definitions.reader, owner, main, listed,
                copied, Reading.orReject]

/-- **Every key is answered**, and in no other way. -/
theorem answers_load (closed : definitions.Closed) (filed : definitions.Filed) (key : ContextKey) :
    definitions.Answers key (key.load definitions.reader) := by
  rw [ContextKey.load_eq_bind]
  cases selection : key.selectAction.run definitions.reader with
  | ok selected =>
      obtain ⟨requested, asked, selects⟩ :=
        (ContextKey.run_selectAction_eq_ok_iff definitions key selected).mp selection
      have held := mem_allActions_of_action?_eq_some asked
      exact closed.answers_contextOf (selects.linked filed held).1 ⟨requested, asked, selects⟩
  | error reason =>
      unfold ContextKey.selectAction at selection
      cases asked : definitions.action? key.actionId with
      | none =>
          simp only [Reading.run, Definitions.reader, asked] at selection
          cases selection
          exact .unknown asked
      | some requested =>
          have held := mem_allActions_of_action?_eq_some asked
          simp only [Reading.run, Definitions.reader, asked] at selection
          cases named : key.branch with
          | none =>
              rw [named] at selection
              cases selection
          | some branch =>
              rw [named] at selection
              rcases closed.run_onBranch_cases held branch with
                ⟨selected, ran⟩ | ⟨application, owner, main, ⟨listed, ran⟩ | ⟨listed, copied, ran⟩⟩
              · cases selection.symm.trans ran
              · cases selection.symm.trans ran
                exact .noBranch ⟨asked, named, owner, main⟩ listed
              · cases selection.symm.trans ran
                exact .noCopy ⟨asked, named, owner, main⟩ listed
                  ((copyOnBranch?_eq_none_iff _ _).mp copied)

end Closed

end Definitions

namespace Manifest

variable {manifest : Manifest} {definitions : Definitions} {key : ContextKey}
  {answer : Except Rejection ResolvedContext}

/-- The definitions of a sound manifest hold all of its actions. -/
theorem Sound.mem_allActions_iff (sound : manifest.Sound) (action : Action) :
    action ∈ (Definitions.ofManifest manifest).allActions ↔ action ∈ manifest.actions := by
  rw [(Definitions.filed_ofManifest manifest).mem_allActions_iff]
  constructor
  · exact Definitions.mem_actions_of_action?_ofManifest
  · intro member
    obtain ⟨other, found⟩ :=
      Definitions.exists_action?_ofManifest ((hasAction_iff action.id).mpr ⟨action, member, rfl⟩)
    have otherMember := Definitions.mem_actions_of_action?_ofManifest found
    have sameId : other.id = action.id :=
      (Definitions.filed_ofManifest manifest).actions _ _ found
    rw [found, sound.eq_of_id otherMember member sameId]

/-- Each of them is found by its id. -/
theorem Sound.action?_eq_some (sound : manifest.Sound) {action : Action}
    (member : action ∈ manifest.actions) :
    (Definitions.ofManifest manifest).action? action.id = some action :=
  ((Definitions.filed_ofManifest manifest).mem_allActions_iff action).mp
    ((sound.mem_allActions_iff action).mpr member)

/-- What a sound manifest defines is closed. -/
theorem Sound.closed (sound : manifest.Sound) : (Definitions.ofManifest manifest).Closed where
  owned := by
    intro action held
    obtain ⟨application, owner, -⟩ := sound.owned action ((sound.mem_allActions_iff action).mp held)
    exact ⟨application, (Definitions.application?_ofManifest manifest _).trans owner⟩
  based := by
    intro action held
    exact Definitions.exists_action?_ofManifest
      (sound.based action ((sound.mem_allActions_iff action).mp held))
  sourced := by
    intro action held definition side
    exact Definitions.exists_datasource?_ofManifest
      (sound.sourced action ((sound.mem_allActions_iff action).mp held) definition side)

/-- **Answered cleanly.** Nothing that the manifest was to define is missing, and a rejection has
its reason in what the key asks for. The definitions are those of the manifest, in the order in
which they are held. -/
structure AnsweredCleanly (manifest : Manifest) (definitions : Definitions) (key : ContextKey)
    (answer : Except Rejection ResolvedContext) : Prop where
  sourced : ∀ datasource, answer ≠ .error (.datasourceNotFound datasource)
  notInternal : ∀ reason, answer = .error reason → reason.kind ≠ .internal
  owned : ∀ application action,
    answer ≠ .error (.actionNotFound (.noApplication application action))
  based : ∀ base, answer ≠ .error (.actionNotFound (.noDefaultLine base))
  actionNotFound : ∀ cause, answer = .error (.actionNotFound cause) →
    manifest.hasAction key.actionId = false ∨
    (∃ selected, definitions.Asks key selected ∧
      key.viewMode = .view ∧ selected.published = none) ∨
    ∃ requested application branch,
      definitions.LeavesMain key requested application branch ∧
      application.hasBranch branch = true ∧
      ∀ action ∈ manifest.actions,
        ¬(action.baseId = requested.baseId ∧ action.branchName = some branch)
  branchNotFound : ∀ name branch, answer = .error (.branchNotFound name branch) →
    ∃ requested application,
      definitions.LeavesMain key requested application branch ∧
      application.id = name ∧ application.hasBranch branch = false
  otherwise : (∀ cause, answer ≠ .error (.actionNotFound cause)) →
    (∀ name branch, answer ≠ .error (.branchNotFound name branch)) →
    ∃ selected definition datasource,
      definitions.Reaches key selected definition datasource ∧
      ((∃ name environment, answer = .error (.environmentNotConfigured name environment)) ↔
        datasource.storage? key.environmentId = none) ∧
      ∀ storage, datasource.storage? key.environmentId = some storage → answer = .ok {
        action := selected
        definition := definition
        viewMode := key.viewMode
        datasource := datasource
        environmentId := key.environmentId
        storage := storage }

/-- The answers that the definitions of a sound manifest give are clean. -/
theorem Sound.answeredCleanly (sound : manifest.Sound)
    (same : (Definitions.ofManifest manifest).SameRecords definitions)
    (answers : definitions.Answers key answer) :
    manifest.AnsweredCleanly definitions key answer where
  sourced := by
    rintro datasource rfl
    cases answers
  notInternal := by
    rintro reason rfl
    cases answers <;> exact nofun
  owned := by
    rintro application action rfl
    cases answers
  based := by
    rintro base rfl
    cases answers
  actionNotFound := by
    rintro cause rfl
    cases answers with
    | unknown unasked =>
        refine .inl (Bool.eq_false_iff.mpr fun defined => ?_)
        obtain ⟨action, found⟩ := Definitions.exists_action?_ofManifest defined
        exact nomatch unasked.symm.trans ((same.action? _).trans found)
    | unpublished asks mode unpublished => exact .inr (.inl ⟨_, asks, mode, unpublished⟩)
    | noCopy leaves listed absent =>
        refine .inr (.inr ⟨_, _, _, leaves, listed, fun action member => ?_⟩)
        refine absent action ((same.mem_allActions_iff action).mpr ?_)
        exact (sound.mem_allActions_iff action).mpr member
  branchNotFound := by
    rintro name branch rfl
    cases answers with
    | noBranch leaves unlisted => exact ⟨_, _, leaves, rfl, unlisted⟩
  otherwise := by
    intro found branched
    cases answers with
    | unknown _ | noCopy _ _ _ | unpublished _ _ _ => exact (found _ rfl).elim
    | noBranch _ _ => exact (branched _ _ rfl).elim
    | unconfigured reaches unstored =>
        refine ⟨_, _, _, reaches, ⟨fun _ => unstored, fun _ => ⟨_, _, rfl⟩⟩,
          fun storage stored => ?_⟩
        exact nomatch unstored.symm.trans stored
    | context reaches stored =>
        refine ⟨_, _, _, reaches, ⟨nofun, fun unstored => ?_⟩, fun storage same => ?_⟩
        · exact nomatch stored.symm.trans unstored
        · cases stored.symm.trans same
          rfl

end Manifest

namespace Gateway

variable {known : Variables} {content : String} {format : DocumentFormat} {manifest : Manifest}
  {definitions : Definitions}

/-- A call is answered as the definitions do, as long as nothing else was read before. -/
theorem resolve_fst_after (gateway : Gateway) (surroundings : Surroundings)
    (history : List CacheEvent) (own : ∀ event ∈ history, event.ReadsWith surroundings.reader)
    (id : String) (branch : Option String) (environmentId : String) (viewMode : ViewMode) :
    (gateway.resolve surroundings (.after history) id branch environmentId viewMode).1 =
      (ContextKey.ofCall gateway.settings.defaultEnvironment id branch environmentId viewMode).load
        surroundings.reader :=
  ContextCache.resolve_fst_eq_load _ _ _ _ (ContextCache.current_after own)

/-- **Accepted manifests resolve cleanly.** Every call over the definitions of an accepted manifest
is answered cleanly, in whatever order they are held and whatever was asked for and invalidated
before. What counts is the branch without the blank space around it, and for a blank environment the
default one. -/
theorem resolve_answeredCleanly (accepted : Manifest.parse known content format = .ok manifest)
    (same : (Definitions.ofManifest manifest).SameRecords definitions)
    (gateway : Gateway) (surroundings : Surroundings)
    (reads : surroundings.reader = definitions.reader)
    (history : List CacheEvent) (own : ∀ event ∈ history, event.ReadsWith surroundings.reader)
    (id : String) (branch : Option String) (environmentId : String) (viewMode : ViewMode) :
    manifest.AnsweredCleanly definitions
      (.ofCall gateway.settings.defaultEnvironment id branch environmentId viewMode)
      (gateway.resolve surroundings (.after history) id branch environmentId viewMode).1 := by
  have sound := Manifest.sound_of_parse accepted
  rw [resolve_fst_after gateway surroundings history own, reads]
  have filed := same.filed (Definitions.filed_ofManifest manifest)
  exact sound.answeredCleanly same ((same.closed sound.closed).answers_load filed _)

/-! ## A branch with blank space around it

A manifest with one action and a copy of it on a branch that is listed with blank space around its
name. -/

/-- A manifest that lists a branch with blanks around its name. -/
def paddedContent : String :=
  "[[[\"a\",\"\",\"main\",[\" dev \"]]],[[\"d\",\"\",\"q\",\x7b\"production\":[]\x7d]]," ++
    "[[\"r\",null,\"a\",null,\"\",\"q\",[\"d\"]],[\"c\",\"r\",\"a\",\" dev \",\"\",\"q\",[\"d\"]]]]"

/-- Its application. -/
def paddedApplication : Application := ⟨"a", "", some "main", [" dev "]⟩

/-- Its datasource. -/
def paddedDatasource : Datasource := ⟨"d", "", "q", [("production", ⟨.null, .null⟩)]⟩

/-- The action on the default line. -/
def unpadded : Action := ⟨"r", "r", "a", none, "", "q", ⟨"d", .null, none⟩, none⟩

/-- The copy on the branch listed with blanks. -/
def padded : Action := ⟨"c", "r", "a", some " dev ", "", "q", ⟨"d", .null, none⟩, none⟩

/-- The manifest it is parsed to. -/
def paddedManifest : Manifest := ⟨[paddedApplication], [paddedDatasource], [unpadded, padded]⟩

set_option maxRecDepth 20000 in
/-- The padded manifest is accepted. -/
theorem parse_paddedContent :
    Manifest.parse ⟨[], fun _ => none⟩ paddedContent .json = .ok paddedManifest :=
  Manifest.parse_of_toOption (by decide +kernel)

/-- A service that has answered nothing. -/
def paddedGateway : Gateway := ⟨.standard, .empty, .first⟩

/-- The definitions of the manifest, with the copy in front. -/
def paddedFirst : Definitions :=
  { Definitions.ofManifest paddedManifest with
    actions := ⟨[("c", padded), ("r", unpadded)], by decide⟩ }

/-- The copy may be scanned first. -/
theorem sameRecords_paddedFirst :
    (Definitions.ofManifest paddedManifest).SameRecords paddedFirst :=
  ⟨.refl _, .swap .., .refl _⟩

/-- Definitions scanned in that order. -/
def paddedSurroundings : Surroundings where
  reader := paddedFirst.reader
  nowMs := 0
  occasion := ⟨default, fun ms => ms, ""⟩
  spool _ := .ok ""

/-- One resolution of the action, which is kept from then on, and an invalidation of its copy. -/
def paddedHistory : List CacheEvent := [
  .resolve ⟨60, 1, .first⟩ paddedSurroundings.reader 0 ⟨"r", none, "production", .edit⟩,
  .invalidate (.action "c")]

/-- A history of calls on the padded manifest, then one more that is answered cleanly. -/
theorem resolve_answeredCleanly_padded :
    Manifest.parse ⟨[], fun _ => none⟩ paddedContent .json = .ok paddedManifest ∧
      (Definitions.ofManifest paddedManifest).SameRecords paddedFirst ∧
      (∀ event ∈ paddedHistory, event.ReadsWith paddedSurroundings.reader) ∧
      paddedManifest.AnsweredCleanly paddedFirst
        (.ofCall paddedGateway.settings.defaultEnvironment "r" (some " main ") "" .edit)
        (paddedGateway.resolve paddedSurroundings (.after paddedHistory) "r" (some " main ") ""
          .edit).1 := by
  have own : ∀ event ∈ paddedHistory, event.ReadsWith paddedSurroundings.reader := by
    simp only [paddedHistory, List.forall_mem_cons, CacheEvent.ReadsWith, true_and]
    exact fun _ member => (List.not_mem_nil member).elim
  exact ⟨parse_paddedContent, sameRecords_paddedFirst, own,
    resolve_answeredCleanly parse_paddedContent sameRecords_paddedFirst paddedGateway
      paddedSurroundings rfl paddedHistory own "r" (some " main ") "" .edit⟩

/-- A branch that is listed with blank space around it is not found, and a blank environment is not
missed in a datasource that has no storage for it. -/
theorem listed_branch_is_not_found :
    Manifest.parse ⟨[], fun _ => none⟩ paddedContent .json = .ok paddedManifest ∧
      paddedManifest.application? unpadded.applicationId = some paddedApplication ∧
      paddedApplication.hasBranch " dev " = true ∧
      (paddedGateway.resolve paddedSurroundings (.after []) "r" (some " dev ") "production"
        .edit).1 =
        .error (.branchNotFound "a" "dev") ∧
      paddedDatasource.storage? "" = none ∧
      (paddedGateway.resolve paddedSurroundings (.after []) "r" none "" .edit).1 =
        .ok ⟨unpadded, ⟨"d", .null, none⟩, .edit, paddedDatasource, "production", ⟨.null, .null⟩⟩ :=
  ⟨parse_paddedContent, by decide, by decide, rfl, by decide, rfl⟩

end Gateway

end ActionGateway
