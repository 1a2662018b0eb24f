import ActionGateway.Proofs.DefaultLine
import ActionGateway.Proofs.ManifestResolutions

/-!
# The order in which records are held

A store finds a record by its id, in whatever order it holds its records. A copy on a branch is
found by its base and its branch, and when two actions are copies of one base on one branch, it is
the order that decides between them. A manifest may define two such copies. What a key resolves to
is then the same in every order only if the key does not ask for them, or if both fail alike.
-/

namespace ActionGateway

/-- The action is a copy of a base on a branch. -/
def Action.IsCopy (action : Action) (base branch : String) : Prop :=
  action.baseId = base ∧ action.branchName = some branch

/-- The version that a key asks for is the requested action, or what its branch leads to. -/
theorem ContextKey.run_selectAction (definitions : Definitions) (key : ContextKey) :
    key.selectAction.run definitions.reader =
      match definitions.action? key.actionId with
      | none => .error (.actionNotFound (.unknown key.actionId))
      | some requested =>
        match key.branch with
        | none => .ok requested
        | some branch => (onBranch requested branch).run definitions.reader := by
  unfold selectAction
  simp only [Reading.run, Definitions.reader]
  cases definitions.action? key.actionId with
  | none => rfl
  | some requested => cases key.branch <;> rfl

namespace Definitions

/-- **A key asks for a copy** when its branch is listed, is not the default one, and is not the one
that the requested action is on. -/
structure AsksForCopy (definitions : Definitions) (key : ContextKey) (requested : Action)
    (application : Application) (branch : String) : Prop
    extends LeavesMain definitions key requested application branch where
  elsewhere : requested.branchName ≠ some branch
  listed : application.hasBranch branch = true

/-- **A decided key**: if it asks for a copy, there is at most one. -/
def Decided (definitions : Definitions) (key : ContextKey) : Prop :=
  ∀ requested application branch, definitions.AsksForCopy key requested application branch →
    ∀ first ∈ definitions.allActions, ∀ second ∈ definitions.allActions,
      first.IsCopy requested.baseId branch → second.IsCopy requested.baseId branch → first = second

/-- Where a base has one version on a branch, every key is decided. -/
theorem Regular.decided {definitions : Definitions} (regular : definitions.Regular)
    (key : ContextKey) : definitions.Decided key := by
  intro requested application branch _ first firstHeld second secondHeld firstCopy secondCopy
  exact regular.oneVersion first firstHeld second secondHeld
    (firstCopy.1.trans secondCopy.1.symm) (firstCopy.2.trans secondCopy.2.symm)

/-- The same records, with the actions in the opposite order. -/
def reversed (definitions : Definitions) : Definitions :=
  { definitions with
    actions := ⟨definitions.actions.entries.reverse, by
      rw [List.map_reverse, List.nodup_reverse]
      exact definitions.actions.nodup⟩ }

/-- Definitions scanned backwards hold the same records. -/
theorem sameRecords_reversed (definitions : Definitions) :
    definitions.SameRecords definitions.reversed :=
  ⟨.refl _, (List.reverse_perm _).symm, .refl _⟩

variable {definitions first second : Definitions} {key : ContextKey} {requested action : Action}
  {application : Application} {branch : String}

/-- What is found as a copy is one of the actions and a copy. -/
theorem isCopy_of_copyOnBranch? {base : String}
    (found : definitions.copyOnBranch? base branch = some action) :
    action ∈ definitions.allActions ∧ action.IsCopy base branch :=
  of_copyOnBranch?_eq_some found

namespace SameRecords

/-- The rest of a context does not depend on the order. -/
theorem run_contextOf (same : first.SameRecords second) (key : ContextKey) (action : Action) :
    (key.contextOf action).run second.reader = (key.contextOf action).run first.reader := by
  unfold ContextKey.contextOf
  cases action.definition? key.viewMode with
  | none => rfl
  | some definition =>
      simp only [Reading.run, reader, same.datasource?]
      cases first.datasource? definition.datasourceId with
      | none => rfl
      | some datasource =>
          cases stored : datasource.storage? key.environmentId <;>
            simp only [stored, Reading.run]

/-- The version on a branch does not depend on the order, unless it is a copy on another branch. -/
theorem run_onBranch (same : first.SameRecords second)
    (noCopy : ∀ application, first.application? requested.applicationId = some application →
      application.isDefaultBranch branch = false → requested.branchName ≠ some branch →
      application.hasBranch branch = false) :
    (ContextKey.onBranch requested branch).run second.reader =
      (ContextKey.onBranch requested branch).run first.reader := by
  unfold ContextKey.onBranch
  by_cases on : requested.branchName = some branch
  · rw [if_pos on]
    rfl
  rw [if_neg on]
  simp only [Reading.run, reader, same.application?]
  cases owner : first.application? requested.applicationId with
  | none => rfl
  | some application =>
      cases main : application.isDefaultBranch branch with
      | true =>
          simp only [main, ↓reduceIte]
          cases requested.isDefaultLine with
          | true => rfl
          | false =>
              simp only [Bool.false_eq_true, ↓reduceIte, Reading.run, same.action?]
              cases first.action? requested.baseId <;> rfl
      | false =>
          have unlisted := noCopy application owner main on
          simp only [main, unlisted, Bool.false_eq_true, ↓reduceIte]
          rfl

/-- Whether a key asks for a copy does not depend on the order. -/
theorem asksForCopy (same : first.SameRecords second)
    (asks : first.AsksForCopy key requested application branch) :
    second.AsksForCopy key requested application branch where
  asked := (same.action? _).trans asks.asked
  named := asks.named
  owner := (same.application? _).trans asks.owner
  other := asks.other
  elsewhere := asks.elsewhere
  listed := asks.listed

end SameRecords

/-- A key that asks for a copy gets the one that is found first. -/
theorem AsksForCopy.load (asks : definitions.AsksForCopy key requested application branch) :
    key.load definitions.reader =
      match definitions.copyOnBranch? requested.baseId branch with
      | none => .error (.actionNotFound (.notOnBranch requested.baseId branch))
      | some copy => (key.contextOf copy).run definitions.reader := by
  rw [ContextKey.load_on_branch asks.named asks.asked, ContextKey.onBranch,
    if_neg asks.elsewhere]
  simp only [Reading.run, reader, asks.owner, asks.other, asks.listed, Bool.false_eq_true,
    ↓reduceIte]
  cases definitions.copyOnBranch? requested.baseId branch <;> rfl

/-- **A key that does not ask for a copy** has the same context in every order. -/
theorem SameRecords.load_eq (same : first.SameRecords second)
    (never : ∀ requested application branch,
      ¬first.AsksForCopy key requested application branch) :
    key.load second.reader = key.load first.reader := by
  have selected : key.selectAction.run second.reader = key.selectAction.run first.reader := by
    rw [ContextKey.run_selectAction, ContextKey.run_selectAction, same.action?]
    cases asked : first.action? key.actionId with
    | none => rfl
    | some requested =>
        cases named : key.branch with
        | none => rfl
        | some branch =>
            refine same.run_onBranch fun application owner main elsewhere => ?_
            refine Bool.eq_false_iff.mpr fun listed => never requested application branch ?_
            exact ⟨⟨asked, named, owner, main⟩, elsewhere, listed⟩
  rw [ContextKey.load_eq_bind, ContextKey.load_eq_bind, selected]
  congr 1
  funext action
  exact same.run_contextOf key action

/-- Any copy is the one that is found first in some order. -/
theorem exists_order_finding {base : String} (held : action ∈ definitions.allActions)
    (copy : action.IsCopy base branch) :
    ∃ other, definitions.SameRecords other ∧ other.copyOnBranch? base branch = some action := by
  obtain ⟨entry, member, rfl⟩ := List.mem_map.mp held
  obtain ⟨before, after, split⟩ := List.append_of_mem member
  have reordered : definitions.actions.entries.Perm (entry :: (before ++ after)) := by
    rw [split]
    exact List.perm_middle
  have distinct : ((entry :: (before ++ after)).map Prod.fst).Nodup :=
    (reordered.map Prod.fst).nodup_iff.mp definitions.actions.nodup
  refine ⟨{ definitions with actions := ⟨entry :: (before ++ after), distinct⟩ },
    ⟨.refl _, reordered, .refl _⟩, ?_⟩
  have found : (entry.2.baseId == base && entry.2.branchName == some branch) = true := by
    rw [copy.1, copy.2, beq_self_eq_true, beq_self_eq_true, Bool.and_self]
  exact congrArg (Option.map Prod.snd) (List.find?_cons_of_pos found)

/-- **When the order decides.** A key has one context in every order exactly when the copies that it
asks for, if it does, all lead to the same. -/
theorem load_eq_in_every_order_iff (definitions : Definitions) (key : ContextKey) :
    (∀ other, definitions.SameRecords other →
      key.load other.reader = key.load definitions.reader) ↔
    ∀ requested application branch, definitions.AsksForCopy key requested application branch →
      ∀ first ∈ definitions.allActions, ∀ second ∈ definitions.allActions,
        first.IsCopy requested.baseId branch → second.IsCopy requested.baseId branch →
        (key.contextOf first).run definitions.reader =
          (key.contextOf second).run definitions.reader := by
  constructor
  · intro alike requested application branch asks first firstHeld second secondHeld firstCopy
      secondCopy
    -- In the order that finds a copy, the key has the context of that copy.
    have leads {copy : Action} (held : copy ∈ definitions.allActions)
        (isCopy : copy.IsCopy requested.baseId branch) :
        (key.contextOf copy).run definitions.reader = key.load definitions.reader := by
      obtain ⟨other, same, found⟩ := exists_order_finding held isCopy
      have loaded := (same.asksForCopy asks).load
      simp only [found, same.run_contextOf] at loaded
      rw [← loaded]
      exact alike other same
    rw [leads firstHeld firstCopy, leads secondHeld secondCopy]
  · intro agree other same
    by_cases asked : ∃ requested application branch,
        definitions.AsksForCopy key requested application branch
    · obtain ⟨requested, application, branch, asks⟩ := asked
      rw [(same.asksForCopy asks).load, asks.load]
      cases found : definitions.copyOnBranch? requested.baseId branch with
      | none =>
          have absent := (copyOnBranch?_eq_none_iff _ _).mp found
          have absentThere : other.copyOnBranch? requested.baseId branch = none :=
            (copyOnBranch?_eq_none_iff _ _).mpr fun copy held =>
              absent copy ((same.mem_allActions_iff copy).mp held)
          rw [absentThere]
      | some first =>
          obtain ⟨firstHeld, firstCopy⟩ := isCopy_of_copyOnBranch? found
          cases foundThere : other.copyOnBranch? requested.baseId branch with
          | none =>
              have absent := (copyOnBranch?_eq_none_iff _ _).mp foundThere
              exact (absent first ((same.mem_allActions_iff first).mpr firstHeld) firstCopy).elim
          | some second =>
              obtain ⟨secondHeld, secondCopy⟩ := isCopy_of_copyOnBranch? foundThere
              simp only [same.run_contextOf]
              exact agree requested application branch asks second
                ((same.mem_allActions_iff second).mp secondHeld) first firstHeld secondCopy
                firstCopy
    · exact same.load_eq fun requested application branch asks =>
        asked ⟨requested, application, branch, asks⟩

/-- A decided key has one context in every order. -/
theorem SameRecords.load_eq_of_decided (same : first.SameRecords second)
    (decided : first.Decided key) : key.load second.reader = key.load first.reader := by
  refine (load_eq_in_every_order_iff first key).mpr ?_ second same
  intro requested application branch asks one oneHeld other otherHeld oneCopy otherCopy
  rw [decided requested application branch asks one oneHeld other otherHeld oneCopy otherCopy]

end Definitions

/-- What a call finds that reads the given definitions. -/
def Surroundings.over (surroundings : Surroundings) (definitions : Definitions) : Surroundings :=
  { surroundings with reader := definitions.reader }

namespace Gateway

variable {known : Variables} {content : String} {format : DocumentFormat} {manifest : Manifest}

/-- **When the order of the records decides.** Over the definitions of an accepted manifest, a call
has one answer in every order of the records exactly when it asks for no copy, or for one of which
there is at most one. Nothing keeps a manifest from defining two copies of one base on one branch;
a call that asks for them has one answer only if both lack the storage of one environment in one
datasource. -/
theorem resolve_eq_in_every_order_iff
    (accepted : Manifest.parse known content format = .ok manifest) (gateway : Gateway)
    (surroundings : Surroundings) (id : String) (branch : Option String) (environmentId : String)
    (viewMode : ViewMode) :
    (∀ definitions, (Definitions.ofManifest manifest).SameRecords definitions →
      ∀ history, (∀ event ∈ history, event.ReadsWith definitions.reader) →
        (gateway.resolve (surroundings.over definitions) (.after history) id branch environmentId
          viewMode).1 =
        (gateway.resolve (surroundings.over (.ofManifest manifest)) .empty id branch environmentId
          viewMode).1) ↔
    ∀ requested application named,
      (Definitions.ofManifest manifest).AsksForCopy
        (.ofCall gateway.settings.defaultEnvironment id branch environmentId viewMode)
        requested application named →
      ∀ first ∈ manifest.actions, ∀ second ∈ manifest.actions,
        first.IsCopy requested.baseId named → second.IsCopy requested.baseId named →
        first = second ∨ ∃ datasource environment,
          (gateway.resolve (surroundings.over (.ofManifest manifest)) .empty first.id none
              environmentId viewMode).1 =
            .error (.environmentNotConfigured datasource environment) ∧
          (gateway.resolve (surroundings.over (.ofManifest manifest)) .empty second.id none
              environmentId viewMode).1 =
            .error (.environmentNotConfigured datasource environment) := by
  have sound := Manifest.sound_of_parse accepted
  have loaded (id : String) (branch : Option String) :
      (gateway.resolve (surroundings.over (.ofManifest manifest)) .empty id branch environmentId
          viewMode).1 =
        (ContextKey.ofCall gateway.settings.defaultEnvironment id branch environmentId
          viewMode).load
          (Definitions.ofManifest manifest).reader :=
    resolve_fst_after gateway (surroundings.over (.ofManifest manifest)) [] nofun ..
  have orders := Definitions.load_eq_in_every_order_iff (.ofManifest manifest)
    (.ofCall gateway.settings.defaultEnvironment id branch environmentId viewMode)
  simp only [sound.mem_allActions_iff] at orders
  refine .trans ?_ (orders.trans ?_)
  · rw [loaded]
    constructor
    · intro alike definitions same
      have answered := alike definitions same [] nofun
      rw [resolve_fst_after gateway (surroundings.over definitions) [] nofun] at answered
      exact answered
    · intro alike definitions same history own
      rw [resolve_fst_after gateway (surroundings.over definitions) history own]
      exact alike definitions same
  · refine forall₄_congr fun requested application named asks => ?_
    refine forall₄_congr fun first firstMember second secondMember => ?_
    refine forall₂_congr fun firstCopy secondCopy => ?_
    by_cases same : first = second
    · simp only [same, true_or]
    have alone {action : Action} (member : action ∈ manifest.actions) :
        (gateway.resolve (surroundings.over (.ofManifest manifest)) .empty action.id none
            environmentId viewMode).1 =
          ((ContextKey.ofCall gateway.settings.defaultEnvironment id branch environmentId
            viewMode).contextOf action).run (Definitions.ofManifest manifest).reader := by
      rw [loaded]
      exact ContextKey.load_without_branch rfl (sound.action?_eq_some member)
    -- A context holds the action it was made of, so two actions have no context in common. What is
    -- left for them is to fail alike.
    have different : first.id ≠ second.id := fun sameId =>
      same (sound.eq_of_id firstMember secondMember sameId)
    have sourced := sound.closed.sourced first ((sound.mem_allActions_iff first).mpr firstMember)
    rw [alone firstMember, alone secondMember, or_iff_right same]
    exact ContextKey.run_contextOf_eq_iff different sourced

/-! ## Two copies of one action on one branch -/

/-- A second copy of the same action on the same branch. -/
def twin : Action := { copied with id := "t" }

/-- The manifest with both copies. -/
def twinContent : String :=
  "[[[\"a\",\"\",\"main\",[\"dev\"]]],[[\"d\",\"\",\"q\",\x7b\"e\":[]\x7d]]," ++
    "[[\"r\",null,\"a\",null,\"\",\"q\",[\"d\"]],[\"c\",\"r\",\"a\",\"dev\",\"\",\"q\",[\"d\"]]," ++
    "[\"t\",\"r\",\"a\",\"dev\",\"\",\"q\",[\"d\"]]]]"

/-- The manifest it is parsed to. -/
def twinManifest : Manifest := { copyManifest with actions := [original, copied, twin] }

set_option maxRecDepth 20000 in
/-- The manifest with both copies is accepted. -/
theorem parse_twinContent :
    Manifest.parse ⟨[], fun _ => none⟩ twinContent .json = .ok twinManifest :=
  Manifest.parse_of_toOption (by decide +kernel)

/-- The definitions of the manifest, with the twin in front of the copy. -/
def twinFirst : Definitions :=
  { Definitions.ofManifest twinManifest with
    actions := ⟨[("r", original), ("t", twin), ("c", copied)], by decide⟩ }

/-- The second copy may be scanned first. -/
theorem sameRecords_twinFirst : (Definitions.ofManifest twinManifest).SameRecords twinFirst :=
  ⟨.refl _, .cons _ (.swap ..), .refl _⟩

/-- With two copies on the branch the answers depend on the order. -/
theorem resolve_eq_in_every_order_iff_twin :
    Manifest.parse ⟨[], fun _ => none⟩ twinContent .json = .ok twinManifest ∧
    ((∀ definitions, (Definitions.ofManifest twinManifest).SameRecords definitions →
      ∀ history, (∀ event ∈ history, event.ReadsWith definitions.reader) →
        (copyGateway.resolve (copySurroundings.over definitions) (.after history) "r" (some "dev")
          "staging" .edit).1 =
        (copyGateway.resolve (copySurroundings.over (.ofManifest twinManifest)) .empty "r"
          (some "dev") "staging" .edit).1) ↔
    ∀ requested application named,
      (Definitions.ofManifest twinManifest).AsksForCopy
        (.ofCall copyGateway.settings.defaultEnvironment "r" (some "dev") "staging" .edit)
        requested application named →
      ∀ first ∈ twinManifest.actions, ∀ second ∈ twinManifest.actions,
        first.IsCopy requested.baseId named → second.IsCopy requested.baseId named →
        first = second ∨ ∃ datasource environment,
          (copyGateway.resolve (copySurroundings.over (.ofManifest twinManifest)) .empty first.id
              none "staging" .edit).1 =
            .error (.environmentNotConfigured datasource environment) ∧
          (copyGateway.resolve (copySurroundings.over (.ofManifest twinManifest)) .empty second.id
              none "staging" .edit).1 =
            .error (.environmentNotConfigured datasource environment)) :=
  ⟨parse_twinContent, resolve_eq_in_every_order_iff parse_twinContent copyGateway copySurroundings
    "r" (some "dev") "staging" .edit⟩

/-- Which of two copies is run depends on the order in which the records are held. -/
theorem order_decides_between_twins :
    Manifest.parse ⟨[], fun _ => none⟩ twinContent .json = .ok twinManifest ∧
      (Definitions.ofManifest twinManifest).SameRecords twinFirst ∧
      copied ∈ twinManifest.actions ∧ twin ∈ twinManifest.actions ∧ copied ≠ twin ∧
      copied.baseId = twin.baseId ∧ copied.branchName = twin.branchName ∧
      ((copyGateway.resolve (copySurroundings.over (.ofManifest twinManifest)) .empty "r"
        (some "dev") "e" .edit).1.toOption.map fun context => context.action) = some copied ∧
      ((copyGateway.resolve (copySurroundings.over twinFirst) .empty "r" (some "dev") "e"
        .edit).1.toOption.map fun context => context.action) = some twin :=
  ⟨parse_twinContent, sameRecords_twinFirst, by decide, by decide, by decide, rfl, rfl, by decide,
    by decide⟩

end Gateway

end ActionGateway
