import ActionGateway.Proofs.RecordOrders

/-!
# Families of versions

The actions of one base form a family: the base itself on the default line, and copies of it, each
on a branch of its own. When a branch is named, it does not matter which member of the family is
called. A member that is on the branch is run itself, and the others get to it by way of the default
line or of the copies on branches.
-/

namespace ActionGateway

namespace Manifest

/-- The branch is the default one of the application that an action belongs to. -/
def isMain (manifest : Manifest) (action : Action) (branch : String) : Bool :=
  (manifest.application? action.applicationId).any fun application =>
    application.isDefaultBranch branch

/-- **The actions form families.** -/
structure InFamilies (manifest : Manifest) : Prop where
  /-- A base is its own base, and if it is on a branch by name, that is the default one. -/
  based : ∀ action ∈ manifest.actions, ∃ base ∈ manifest.actions,
    base.id = action.baseId ∧ base.baseId = action.baseId ∧
      ∀ branch ∈ base.branchName, manifest.isMain base branch = true
  /-- The other members are on branches that are not the default one. -/
  aside : ∀ action ∈ manifest.actions, action.id ≠ action.baseId →
    ∃ branch ∈ action.branchName, manifest.isMain action branch = false
  together : ∀ first ∈ manifest.actions, ∀ second ∈ manifest.actions,
    first.baseId = second.baseId → first.applicationId = second.applicationId
  apart : ∀ first ∈ manifest.actions, ∀ second ∈ manifest.actions,
    first.baseId = second.baseId →
      ∀ branch ∈ first.branchName, branch ∈ second.branchName → first = second

instance (manifest : Manifest) : Decidable manifest.InFamilies :=
  decidable_of_iff
    ((∀ action ∈ manifest.actions, ∃ base ∈ manifest.actions,
      base.id = action.baseId ∧ base.baseId = action.baseId ∧
        ∀ branch ∈ base.branchName, manifest.isMain base branch = true) ∧
    (∀ action ∈ manifest.actions, action.id ≠ action.baseId →
      ∃ branch ∈ action.branchName, manifest.isMain action branch = false) ∧
    (∀ first ∈ manifest.actions, ∀ second ∈ manifest.actions,
      first.baseId = second.baseId → first.applicationId = second.applicationId) ∧
    ∀ first ∈ manifest.actions, ∀ second ∈ manifest.actions,
      first.baseId = second.baseId →
        ∀ branch ∈ first.branchName, branch ∈ second.branchName → first = second)
    ⟨fun ⟨based, aside, together, apart⟩ => ⟨based, aside, together, apart⟩,
      fun families => ⟨families.based, families.aside, families.together, families.apart⟩⟩

variable {manifest : Manifest} {action base : Action} {application : Application} {branch : String}

/-- Whether a branch is the default one is up to the application of the action. -/
theorem isMain_of_owner (owner : manifest.application? action.applicationId = some application) :
    manifest.isMain action branch = application.isDefaultBranch branch := by
  rw [isMain, owner, Option.any_some]

namespace InFamilies

/-- A copy is the only one of its base on its branch. -/
theorem eq_of_isCopy (families : manifest.InFamilies) {first second : Action}
    (firstMember : first ∈ manifest.actions) (secondMember : second ∈ manifest.actions)
    {base : String} (firstCopy : first.IsCopy base branch)
    (secondCopy : second.IsCopy base branch) : first = second :=
  families.apart first firstMember second secondMember (firstCopy.1.trans secondCopy.1.symm)
    branch firstCopy.2 secondCopy.2

/-- In families, the copy of a base on a branch is the only one, so it is found in any order. -/
theorem copyOnBranch?_eq_some (families : manifest.InFamilies) (sound : manifest.Sound)
    (member : action ∈ manifest.actions) {base : String} (copy : action.IsCopy base branch) :
    (Definitions.ofManifest manifest).copyOnBranch? base branch = some action := by
  apply Definitions.copyOnBranch?_eq_some_of_only ((sound.mem_allActions_iff action).mpr member)
    copy.1 copy.2
  intro other held otherBase onBranch
  exact families.eq_of_isCopy ((sound.mem_allActions_iff other).mp held) member
    ⟨otherBase, onBranch⟩ copy

/-- **A member and its base lead to the same version** on any branch. -/
theorem exists_base (families : manifest.InFamilies) (sound : manifest.Sound)
    (member : action ∈ manifest.actions) :
    ∃ base ∈ manifest.actions, base.id = action.baseId ∧ ∀ branch,
      (ContextKey.onBranch action branch).run (Definitions.ofManifest manifest).reader =
        (ContextKey.onBranch base branch).run (Definitions.ofManifest manifest).reader := by
  obtain ⟨base, baseMember, id, own, main⟩ := families.based action member
  refine ⟨base, baseMember, id, fun branch => ?_⟩
  by_cases line : action.id = action.baseId
  · rw [sound.eq_of_id member baseMember (line.trans id.symm)]
  obtain ⟨side, on, sideways⟩ := families.aside action member line
  obtain ⟨application, owned, placed⟩ := sound.owned action member
  have baseOwned : manifest.application? base.applicationId = some application := by
    rw [families.together base baseMember action member own]
    exact owned
  have owner := (Definitions.application?_ofManifest manifest _).trans owned
  have baseOwner := (Definitions.application?_ofManifest manifest _).trans baseOwned
  have notLine : action.isDefaultLine = false := beq_false_of_ne line
  have baseLine : base.isDefaultLine = true := beq_iff_eq.mpr (id.trans own.symm)
  have baseFound : (Definitions.ofManifest manifest).action? action.baseId = some base := by
    rw [← id]
    exact sound.action?_eq_some baseMember
  rw [isMain_of_owner owned] at sideways
  simp only [isMain_of_owner baseOwned] at main
  by_cases isMain : application.isDefaultBranch branch = true
  · -- The default branch leads both to the base.
    have elsewhere : action.branchName ≠ some branch := by
      intro here
      cases on.symm.trans here
      exact Bool.false_ne_true (sideways.symm.trans isMain)
    have selects : (Definitions.ofManifest manifest).Selects base (some branch) base :=
      (Definitions.selects_self_iff (Definitions.filed_ofManifest manifest) baseOwner).mpr
        (.inr ⟨isMain, baseLine⟩)
    rw [(ContextKey.run_onBranch_eq_ok_iff _ _ _ _).mpr selects,
      (ContextKey.run_onBranch_eq_ok_iff _ _ _ _).mpr
        (.base elsewhere owner isMain notLine baseFound)]
  have notMain : application.isDefaultBranch branch = false := Bool.eq_false_iff.mpr isMain
  have baseElsewhere : base.branchName ≠ some branch := fun here => isMain (main branch here)
  by_cases here : action.branchName = some branch
  · -- The member is the copy that the base is looked up for.
    have listed : application.hasBranch branch = true := (placed branch here).resolve_right isMain
    have copy : action.IsCopy base.baseId branch := ⟨own.symm, here⟩
    have found := families.copyOnBranch?_eq_some sound member copy
    rw [(ContextKey.run_onBranch_eq_ok_iff _ _ _ _).mpr (.onBranch here),
      (ContextKey.run_onBranch_eq_ok_iff _ _ _ _).mpr
        (.copy baseElsewhere baseOwner notMain listed found)]
  · -- Both look for the same copy, in the same application.
    simp only [ContextKey.onBranch, here, baseElsewhere, ↓reduceIte, Reading.run,
      Definitions.reader, owner, baseOwner, own]
    simp only [notMain, Bool.false_eq_true, ↓reduceIte]

end InFamilies

end Manifest

namespace Gateway

variable {known : Variables} {content : String} {format : DocumentFormat} {manifest : Manifest}
  {definitions : Definitions} {first second : Action} {named spelled : String}

/-- **Which member of a family is called does not matter** when a branch is named, with whatever
blank space around it, and in whatever order the records of an accepted manifest are held. -/
theorem resolve_eq_of_same_base
    (accepted : Manifest.parse known content format = .ok manifest)
    (families : manifest.InFamilies)
    (same : (Definitions.ofManifest manifest).SameRecords definitions)
    (firstMember : first ∈ manifest.actions) (secondMember : second ∈ manifest.actions)
    (sameBase : first.baseId = second.baseId)
    (visible : Text.isBlankText named = false) (alike : Text.trimmed spelled = Text.trimmed named)
    (gateway : Gateway) (surroundings : Surroundings) (firstHistory secondHistory : List CacheEvent)
    (firstOwn : ∀ event ∈ firstHistory, event.ReadsWith definitions.reader)
    (secondOwn : ∀ event ∈ secondHistory, event.ReadsWith definitions.reader)
    (environmentId : String) (viewMode : ViewMode) :
    (gateway.resolve (surroundings.over definitions) (.after firstHistory) first.id (some named)
        environmentId viewMode).1 =
      (gateway.resolve (surroundings.over definitions) (.after secondHistory) second.id
        (some spelled) environmentId viewMode).1 := by
  have sound := Manifest.sound_of_parse accepted
  have visibleToo : Text.isBlankText spelled = false := by
    rw [Bool.eq_false_iff, Ne, ← Text.trimmed_eq_empty_iff, alike, Text.trimmed_eq_empty_iff]
    exact Bool.eq_false_iff.mp visible
  have inOrder (key : ContextKey) :
      key.load definitions.reader = key.load (Definitions.ofManifest manifest).reader := by
    refine same.load_eq_of_decided ?_
    intro requested application branch _ one oneHeld other otherHeld oneCopy otherCopy
    exact families.eq_of_isCopy ((sound.mem_allActions_iff one).mp oneHeld)
      ((sound.mem_allActions_iff other).mp otherHeld) oneCopy otherCopy
  obtain ⟨base, baseMember, baseId, firstRun⟩ := families.exists_base sound firstMember
  obtain ⟨otherBase, otherMember, otherId, secondRun⟩ := families.exists_base sound secondMember
  have oneBase : otherBase = base :=
    sound.eq_of_id otherMember baseMember (otherId.trans (sameBase.symm.trans baseId.symm))
  rw [resolve_fst_after gateway (surroundings.over definitions) firstHistory firstOwn,
    resolve_fst_after gateway (surroundings.over definitions) secondHistory secondOwn]
  change ContextKey.load definitions.reader _ = ContextKey.load definitions.reader _
  rw [inOrder, inOrder,
    ContextKey.load_on_branch (ContextKey.ofCall_branch_of_visible _ _ _ _ visible)
      (sound.action?_eq_some firstMember),
    ContextKey.load_on_branch (ContextKey.ofCall_branch_of_visible _ _ _ _ visibleToo)
      (sound.action?_eq_some secondMember),
    alike, firstRun, secondRun, oneBase]
  rfl

/-- The definitions of a manifest with one action and its copy, with the copy in front. -/
def copyFirst : Definitions :=
  { Definitions.ofManifest copyManifest with
    actions := ⟨[("c", copied), ("r", original)], by decide⟩ }

/-- A resolution of the copy, which is kept from then on. -/
def copyHistory : List CacheEvent :=
  [.resolve ⟨60, 1, .first⟩ copyFirst.reader 0 ⟨"c", some "dev", "e", .edit⟩]

/-- An action and its copy resolve alike on the branch of the copy, in either order. -/
theorem resolve_eq_of_same_base_copy :
    Manifest.parse ⟨[], fun _ => none⟩ copyContent .json = .ok copyManifest ∧
      copyManifest.InFamilies ∧
      (Definitions.ofManifest copyManifest).SameRecords copyFirst ∧
      original ∈ copyManifest.actions ∧ copied ∈ copyManifest.actions ∧
      original.baseId = copied.baseId ∧
      Text.isBlankText " dev " = false ∧ Text.trimmed "dev" = Text.trimmed " dev " ∧
      (∀ event ∈ ([] : List CacheEvent), event.ReadsWith copyFirst.reader) ∧
      (∀ event ∈ copyHistory, event.ReadsWith copyFirst.reader) ∧
      (copyGateway.resolve (copySurroundings.over copyFirst) (.after []) original.id
          (some " dev ") "e" .edit).1 =
        (copyGateway.resolve (copySurroundings.over copyFirst) (.after copyHistory) copied.id
          (some "dev") "e" .edit).1 := by
  have families : copyManifest.InFamilies := by decide
  have same : (Definitions.ofManifest copyManifest).SameRecords copyFirst :=
    ⟨.refl _, .swap .., .refl _⟩
  have firstMember : original ∈ copyManifest.actions := by decide
  have secondMember : copied ∈ copyManifest.actions := by decide
  have visible : Text.isBlankText " dev " = false := by decide
  have alike : Text.trimmed "dev" = Text.trimmed " dev " := by decide
  have firstOwn : ∀ event ∈ ([] : List CacheEvent), event.ReadsWith copyFirst.reader := nofun
  have secondOwn : ∀ event ∈ copyHistory, event.ReadsWith copyFirst.reader :=
    List.forall_mem_singleton.mpr rfl
  exact ⟨parse_copyContent, families, same, firstMember, secondMember, rfl, visible,
    alike, firstOwn, secondOwn,
    resolve_eq_of_same_base parse_copyContent families same firstMember secondMember rfl visible
      alike copyGateway copySurroundings [] copyHistory firstOwn secondOwn "e" .edit⟩

end Gateway

end ActionGateway
