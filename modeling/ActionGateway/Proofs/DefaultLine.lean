import ActionGateway.Execution.Gateway
import ActionGateway.Proofs.AcceptedManifests
import ActionGateway.Proofs.CoherentSessions
import ActionGateway.Proofs.ContextKeys

/-!
# No branch and the default branch

Without a branch a call gets the action that it names, and with the default branch of the
application it gets the default line of that action. The two are the same for an action on the
default line and for one that is on the default branch by name. For a copy on another branch they
are different actions, so the answers differ, unless both fail for the same missing storage.
-/

namespace ActionGateway

/-- The rejection says that no version of an action was found for a branch. -/
def Rejection.isOfSelection : Rejection → Bool
  | .branchNotFound _ _ => true
  | .actionNotFound (.notPublished _) => false
  | .actionNotFound _ => true
  | _ => false

namespace ContextKey

variable {definitions : Definitions} {requested action : Action} {branch : String}

/-- Looking for the version on a branch fails only in ways of its own. -/
theorem isOfSelection_of_run_onBranch {reason : Rejection}
    (failed : (onBranch requested branch).run definitions.reader = .error reason) :
    reason.isOfSelection = true := by
  have rejected {found : Option Action} {cause : Rejection} (own : cause.isOfSelection = true)
      (missing : (Reading.orReject found cause).run definitions.reader = .error reason) :
      reason.isOfSelection = true := by
    cases found with
    | some other => cases missing
    | none =>
        cases missing
        exact own
  unfold onBranch at failed
  split at failed
  · cases failed
  · simp only [Reading.run, Definitions.reader] at failed
    split at failed
    · cases failed
      rfl
    · split at failed
      · split at failed
        · cases failed
        · exact rejected rfl failed
      · split at failed
        · exact rejected rfl failed
        · cases failed
          rfl

/-- **The rest of a context** is found, or one of three things is missing for it. -/
theorem run_contextOf_cases (definitions : Definitions) (key : ContextKey) (action : Action) :
    (∃ context, (key.contextOf action).run definitions.reader = .ok context ∧
      context.action = action) ∨
    (key.contextOf action).run definitions.reader =
      .error (.actionNotFound (.notPublished action.id)) ∨
    (∃ definition ∈ action.draft :: action.published.toList,
      (key.contextOf action).run definitions.reader =
          .error (.datasourceNotFound definition.datasourceId) ∧
        definitions.datasource? definition.datasourceId = none) ∨
    ∃ datasource, (key.contextOf action).run definitions.reader =
      .error (.environmentNotConfigured datasource key.environmentId) := by
  unfold contextOf
  cases side : action.definition? key.viewMode with
  | none => exact .inr (.inl rfl)
  | some definition =>
      have own := Action.mem_sides_of_definition? side
      simp only [Reading.run, Definitions.reader]
      cases found : definitions.datasource? definition.datasourceId with
      | none => exact .inr (.inr (.inl ⟨definition, own, rfl, found⟩))
      | some datasource =>
          cases stored : datasource.storage? key.environmentId with
          | none => exact .inr (.inr (.inr ⟨datasource.id, by simp only [stored, Reading.run]⟩))
          | some storage => exact .inl ⟨_, by simp only [stored, Reading.run]; rfl, rfl⟩

/-- Two versions with different ids have the same rest of a context only if both have none, for
want of the same storage. -/
theorem run_contextOf_eq_iff {first second : Action} {key : ContextKey}
    (different : first.id ≠ second.id)
    (sourced : ∀ definition ∈ first.draft :: first.published.toList,
      ∃ datasource, definitions.datasource? definition.datasourceId = some datasource) :
    (key.contextOf first).run definitions.reader = (key.contextOf second).run definitions.reader ↔
      ∃ datasource environment,
        (key.contextOf first).run definitions.reader =
          .error (.environmentNotConfigured datasource environment) ∧
        (key.contextOf second).run definitions.reader =
          .error (.environmentNotConfigured datasource environment) := by
  constructor
  · intro same
    rcases run_contextOf_cases definitions key first with
      ⟨context, ran, rfl⟩ | ran | ⟨definition, side, ran, absent⟩ | ⟨datasource, ran⟩
    · rw [ran] at same
      rcases run_contextOf_cases definitions key second with
        ⟨other, ranOther, rfl⟩ | ranOther | ⟨_, _, ranOther, _⟩ | ⟨_, ranOther⟩
      · rw [ranOther] at same
        exact (different (congrArg (fun context => context.action.id) (Except.ok.inj same))).elim
      all_goals
        rw [ranOther] at same
        exact nomatch same
    · rw [ran] at same
      rcases run_contextOf_cases definitions key second with
        ⟨_, ranOther, _⟩ | ranOther | ⟨_, _, ranOther, _⟩ | ⟨_, ranOther⟩
      · rw [ranOther] at same
        exact nomatch same
      · rw [ranOther] at same
        simp only [Except.error.injEq, Rejection.actionNotFound.injEq,
          MissingAction.notPublished.injEq] at same
        exact (different same).elim
      all_goals
        rw [ranOther] at same
        simp at same
    · obtain ⟨datasource, found⟩ := sourced definition side
      rw [absent] at found
      exact nomatch found
    · exact ⟨datasource, key.environmentId, ran, same.symm.trans ran⟩
  · rintro ⟨datasource, environment, ran, ranOther⟩
    rw [ran, ranOther]

/-- Without a branch, the requested action itself is what a context is made of. -/
theorem load_without_branch {key : ContextKey} (absent : key.branch = none)
    (asked : definitions.action? key.actionId = some requested) :
    key.load definitions.reader = (key.contextOf requested).run definitions.reader := by
  have selected : key.selectAction.run definitions.reader = .ok requested :=
    (run_selectAction_eq_ok_iff definitions key requested).mpr
      ⟨requested, asked, absent ▸ .itself⟩
  rw [load_eq_bind, selected]
  rfl

/-- With a branch, a context is made of what the branch leads to. -/
theorem load_on_branch {key : ContextKey} (named : key.branch = some branch)
    (asked : definitions.action? key.actionId = some requested) :
    key.load definitions.reader = ((onBranch requested branch).run definitions.reader).bind
      fun action => (key.contextOf action).run definitions.reader := by
  have selected : key.selectAction.run definitions.reader =
      (onBranch requested branch).run definitions.reader := by
    simp only [selectAction, Reading.run, Definitions.reader, asked, named]
  rw [load_eq_bind, selected]

end ContextKey

namespace Definitions

variable {definitions : Definitions} {requested : Action} {application : Application}
  {branch : String}

/-- A branch stands for the requested action itself when the action is on it by name, or when it is
the default branch and the action is on the default line. -/
theorem selects_self_iff (filed : definitions.Filed)
    (owner : definitions.application? requested.applicationId = some application) :
    definitions.Selects requested (some branch) requested ↔
      requested.branchName = some branch ∨
        (application.isDefaultBranch branch = true ∧ requested.isDefaultLine = true) := by
  constructor
  · intro selects
    cases selects with
    | onBranch named => exact .inl named
    | defaultLine _ owned main line =>
        cases owner.symm.trans owned
        exact .inr ⟨main, line⟩
    | base _ _ _ copied found =>
        have own : requested.id = requested.baseId := filed.actions _ _ found
        rw [Action.isDefaultLine, own, beq_self_eq_true] at copied
        exact nomatch copied
    | copy _ _ _ _ found => exact .inl (of_copyOnBranch?_eq_some found).2.2
  · intro suits
    by_cases named : requested.branchName = some branch
    · exact .onBranch named
    · obtain ⟨main, line⟩ := suits.resolve_left named
      exact .defaultLine named owner main line

/-- Leaving the branch out and naming a branch give the same context when the branch stands for the
requested action, and else only if both give none, for want of the same storage. -/
theorem load_without_branch_eq_iff (filed : definitions.Filed) {key onBranch : ContextKey}
    (absent : key.branch = none) (named : onBranch = { key with branch := some branch })
    (asked : definitions.action? key.actionId = some requested)
    (sourced : ∀ definition ∈ requested.draft :: requested.published.toList,
      ∃ datasource, definitions.datasource? definition.datasourceId = some datasource) :
    key.load definitions.reader = onBranch.load definitions.reader ↔
      definitions.Selects requested (some branch) requested ∨
        ∃ datasource environment,
          key.load definitions.reader =
            .error (.environmentNotConfigured datasource environment) ∧
          onBranch.load definitions.reader =
            .error (.environmentNotConfigured datasource environment) := by
  subst named
  have alone := ContextKey.load_without_branch absent asked
  have branched : ({ key with branch := some branch } : ContextKey).load definitions.reader =
      ((ContextKey.onBranch requested branch).run definitions.reader).bind fun action =>
        (key.contextOf action).run definitions.reader :=
    ContextKey.load_on_branch rfl asked
  cases selected : (ContextKey.onBranch requested branch).run definitions.reader with
  | error reason =>
      have ofSelection := ContextKey.isOfSelection_of_run_onBranch selected
      rw [selected] at branched
      rw [alone, branched]
      constructor
      · intro same
        rcases ContextKey.run_contextOf_cases definitions key requested with
          ⟨_, ran, _⟩ | ran | ⟨_, _, ran, _⟩ | ⟨_, ran⟩
        all_goals cases ran.symm.trans same
        all_goals exact nomatch ofSelection
      · rintro (self | ⟨datasource, environment, ran, ranOther⟩)
        · have ran := (ContextKey.run_onBranch_eq_ok_iff definitions _ _ _).mpr self
          exact nomatch selected.symm.trans ran
        · exact ran.trans ranOther.symm
  | ok other =>
      have selects := (ContextKey.run_onBranch_eq_ok_iff definitions _ _ _).mp selected
      rw [selected] at branched
      by_cases same : other = requested
      · subst same
        exact ⟨fun _ => .inl selects, fun _ => alone.trans branched.symm⟩
      · have asksFor : requested.id = key.actionId := filed.actions _ _ asked
        have held := mem_allActions_of_action?_eq_some asked
        have otherHeld := (selects.linked filed held).1
        have different : requested.id ≠ other.id := by
          intro sameId
          have found := (filed.mem_allActions_iff other).mp otherHeld
          rw [← sameId, asksFor, asked] at found
          exact same (Option.some.inj found).symm
        rw [alone, branched]
        refine (ContextKey.run_contextOf_eq_iff different sourced).trans ⟨.inr, fun alike => ?_⟩
        refine alike.resolve_left fun self => ?_
        have ran := (ContextKey.run_onBranch_eq_ok_iff definitions _ _ _).mpr self
        exact same (Except.ok.inj (selected.symm.trans ran))

end Definitions

namespace Gateway

variable {known : Variables} {content : String} {format : DocumentFormat} {manifest : Manifest}
  {id branch : String} {requested : Action} {application : Application} {absent : Option String}

/-- **No branch and the default branch.** Over the definitions of an accepted manifest, leaving the
branch out is answered as naming the default branch is exactly when the default branch is blank,
the action is on it by name, or the action is on the default line and the name of the branch has no
blank space around it. In every other case the answers differ, except that both versions of the
action may lack the storage of one environment in one datasource. -/
theorem resolve_absent_eq_default_iff
    (accepted : Manifest.parse known content format = .ok manifest)
    (asked : (Definitions.ofManifest manifest).action? id = some requested)
    (owner : (Definitions.ofManifest manifest).application? requested.applicationId =
      some application)
    (main : application.defaultBranch = some branch)
    (blank : absent.all Text.isBlankText = true)
    (gateway : Gateway) (surroundings : Surroundings)
    (reads : surroundings.reader = (Definitions.ofManifest manifest).reader)
    (cache : ContextCache)
    (current : ∀ entry ∈ cache.entries, entry.1.load surroundings.reader = .ok entry.2.context)
    (environmentId : String) (viewMode : ViewMode) :
    (gateway.resolve surroundings cache id absent environmentId viewMode).1 =
        (gateway.resolve surroundings cache id (some branch) environmentId viewMode).1 ↔
      Text.isBlankText branch = true ∨
      requested.branchName = some (Text.trimmed branch) ∨
      (requested.isDefaultLine = true ∧ Text.trimmed branch = branch) ∨
      ∃ datasource environment,
        (gateway.resolve surroundings cache id absent environmentId viewMode).1 =
          .error (.environmentNotConfigured datasource environment) ∧
        (gateway.resolve surroundings cache id (some branch) environmentId viewMode).1 =
          .error (.environmentNotConfigured datasource environment) := by
  have sound := Manifest.sound_of_parse accepted
  have filed := Definitions.filed_ofManifest manifest
  have sourced : ∀ definition ∈ requested.draft :: requested.published.toList, ∃ datasource,
      (Definitions.ofManifest manifest).datasource? definition.datasourceId = some datasource := by
    intro definition side
    have member := Definitions.mem_actions_of_action?_ofManifest asked
    exact Definitions.exists_datasource?_ofManifest (sound.sourced requested member definition side)
  have loaded (named : Option String) :
      (gateway.resolve surroundings cache id named environmentId viewMode).1 =
        (ContextKey.ofCall gateway.settings.defaultEnvironment id named environmentId viewMode).load
          (Definitions.ofManifest manifest).reader := by
    rw [← reads]
    exact cache.resolve_fst_eq_load _ _ _ current
  rw [loaded, loaded]
  have alone := ContextKey.ofCall_branch_of_blank gateway.settings.defaultEnvironment id
    environmentId viewMode blank
  by_cases visible : Text.isBlankText branch = true
  · have blankBranch : (some branch).all Text.isBlankText = true := visible
    have named := ContextKey.ofCall_branch_of_blank gateway.settings.defaultEnvironment id
      environmentId viewMode blankBranch
    refine ⟨fun _ => .inl visible, fun _ => ?_⟩
    have sameKey := ContextKey.ofCall_eq_withBranch gateway.settings.defaultEnvironment id
      environmentId viewMode (some branch) absent
    rw [sameKey, alone, ← named]
  · have named := ContextKey.ofCall_branch_of_visible gateway.settings.defaultEnvironment id
      environmentId viewMode (Bool.eq_false_iff.mpr visible)
    have onBranch : ContextKey.ofCall gateway.settings.defaultEnvironment id (some branch)
          environmentId viewMode =
        { ContextKey.ofCall gateway.settings.defaultEnvironment id absent environmentId
            viewMode with
          branch := some (Text.trimmed branch) } := by
      rw [← named]
      exact ContextKey.ofCall_eq_withBranch ..
    have isMain : application.isDefaultBranch (Text.trimmed branch) = true ↔
        Text.trimmed branch = branch := by
      rw [Application.isDefaultBranch, main, beq_iff_eq, Option.some.injEq]
      exact eq_comm
    rw [Definitions.load_without_branch_eq_iff filed alone onBranch asked sourced,
      Definitions.selects_self_iff filed owner, isMain, or_assoc, and_comm]
    exact (or_iff_right visible).symm

/-! ## An action and its copy

A manifest with one action and a copy of it on the branch `dev`, over which no call has been made
yet. -/

def copyContent : String :=
  "[[[\"a\",\"\",\"main\",[\"dev\"]]],[[\"d\",\"\",\"q\",\x7b\"e\":[]\x7d]]," ++
    "[[\"r\",null,\"a\",null,\"\",\"q\",[\"d\"]],[\"c\",\"r\",\"a\",\"dev\",\"\",\"q\",[\"d\"]]]]"

/-- An action on the default line. -/
def original : Action := ⟨"r", "r", "a", none, "", "q", ⟨"d", .null, none⟩, none⟩

/-- Its copy on a branch. -/
def copied : Action := ⟨"c", "r", "a", some "dev", "", "q", ⟨"d", .null, none⟩, none⟩

def copyManifest : Manifest where
  applications := [⟨"a", "", some "main", ["dev"]⟩]
  datasources := [⟨"d", "", "q", [("e", ⟨.null, .null⟩)]⟩]
  actions := [original, copied]

set_option maxRecDepth 20000 in
/-- The manifest of an action and its copy is accepted. -/
theorem parse_copyContent :
    Manifest.parse ⟨[], fun _ => none⟩ copyContent .json = .ok copyManifest :=
  Manifest.parse_of_toOption (by decide +kernel)

def copyGateway : Gateway := ⟨.standard, .empty, .first⟩

def copySurroundings : Surroundings where
  reader := (Definitions.ofManifest copyManifest).reader
  nowMs := 0
  occasion := ⟨default, fun ms => ms, ""⟩
  spool _ := .ok ""

/-- An action resolves without a branch as on the default one, and its copy does not. -/
theorem resolve_absent_eq_default_iff_copy :
    Manifest.parse ⟨[], fun _ => none⟩ copyContent .json = .ok copyManifest ∧
      (Definitions.ofManifest copyManifest).action? "r" = some original ∧
      (Definitions.ofManifest copyManifest).application? "a" =
        some ⟨"a", "", some "main", ["dev"]⟩ ∧
      ((copyGateway.resolve copySurroundings .empty "r" (some " ") "e" .edit).1 =
          (copyGateway.resolve copySurroundings .empty "r" (some "main") "e" .edit).1 ↔
        Text.isBlankText "main" = true ∨
        original.branchName = some (Text.trimmed "main") ∨
        (original.isDefaultLine = true ∧ Text.trimmed "main" = "main") ∨
        ∃ datasource environment,
          (copyGateway.resolve copySurroundings .empty "r" (some " ") "e" .edit).1 =
            .error (.environmentNotConfigured datasource environment) ∧
          (copyGateway.resolve copySurroundings .empty "r" (some "main") "e" .edit).1 =
            .error (.environmentNotConfigured datasource environment)) := by
  have asked : (Definitions.ofManifest copyManifest).action? "r" = some original := by decide
  have owner : (Definitions.ofManifest copyManifest).application? "a" =
      some ⟨"a", "", some "main", ["dev"]⟩ := by
    decide
  have blank : (some " ").all Text.isBlankText = true := by decide
  exact ⟨parse_copyContent, asked, owner,
    resolve_absent_eq_default_iff parse_copyContent asked owner rfl blank copyGateway
      copySurroundings rfl .empty (fun _ member => (List.not_mem_nil member).elim) "e" .edit⟩

/-- Without a branch a copy on a branch is run itself, with the default branch its original is. -/
theorem absent_branch_is_not_default_line :
    Manifest.parse ⟨[], fun _ => none⟩ copyContent .json = .ok copyManifest ∧
      ((copyGateway.resolve copySurroundings .empty "c" none "e" .edit).1.toOption.map
        fun context =>
        context.action) = some copied ∧
      ((copyGateway.resolve copySurroundings .empty "c" (some "main") "e" .edit).1.toOption.map
        fun context => context.action) = some original :=
  ⟨parse_copyContent, by decide, by decide⟩

end Gateway

end ActionGateway
