import ActionGateway.Proofs.Records
import Mathlib.Data.List.Nodup

/-!
# What an accepted manifest defines

A manifest is accepted exactly when it is sound: each action has an id of its own and refers only
to what the manifest defines. Definitions that are written from a manifest hold its records by
their ids, and of several records with one id the last.
-/

namespace ActionGateway

namespace Manifest

variable {manifest : Manifest}

/-- **Sound manifest.** Its actions have distinct ids, and what they refer to is defined. -/
structure Sound (manifest : Manifest) : Prop where
  distinct : (manifest.actions.map Action.id).Nodup
  owned : ∀ action ∈ manifest.actions, ∃ application,
    manifest.application? action.applicationId = some application ∧
      ∀ branch, action.branchName = some branch →
        application.hasBranch branch = true ∨ application.isDefaultBranch branch = true
  sourced : ∀ action ∈ manifest.actions, ∀ definition ∈ action.draft :: action.published.toList,
    manifest.hasDatasource definition.datasourceId = true
  based : ∀ action ∈ manifest.actions, manifest.hasAction action.baseId = true

/-- An id is that of one action. -/
theorem Sound.eq_of_id (sound : manifest.Sound) {first second : Action}
    (firstMember : first ∈ manifest.actions) (secondMember : second ∈ manifest.actions)
    (sameId : first.id = second.id) : first = second :=
  List.inj_on_of_nodup_map sound.distinct firstMember secondMember sameId

/-- A manifest has an action when one of its records has the id. -/
theorem hasAction_iff (id : String) :
    manifest.hasAction id = true ↔ ∃ action ∈ manifest.actions, action.id = id := by
  simp only [hasAction, List.any_eq_true, beq_iff_eq]

/-- An action is in its place when its application is there and knows its branch. -/
theorem placeFault?_eq_none_iff (action : Action) :
    manifest.placeFault? action = none ↔
      ∃ application, manifest.application? action.applicationId = some application ∧
        ∀ branch, action.branchName = some branch →
          application.hasBranch branch = true ∨ application.isDefaultBranch branch = true := by
  unfold placeFault?
  cases manifest.application? action.applicationId with
  | none => simp
  | some application =>
      cases action.branchName with
      | none => simp
      | some branch => cases listed : application.hasBranch branch <;> simp [listed]

/-- Both sides of an action read from datasources that are there. -/
theorem datasourceFault?_eq_none_iff (action : Action) :
    manifest.datasourceFault? action = none ↔
      ∀ definition ∈ action.draft :: action.published.toList,
        manifest.hasDatasource definition.datasourceId = true := by
  simp only [datasourceFault?, Option.map_eq_none_iff, List.find?_eq_none, Bool.not_eq_true',
    Bool.not_eq_false]

/-- The actions have no fault when their ids are new and distinct and each is defined well. -/
theorem actionFault?_eq_none_iff (earlier : List String) (actions : List Action) :
    manifest.actionFault? earlier actions = none ↔
      (actions.map Action.id).Nodup ∧ ∀ action ∈ actions, action.id ∉ earlier ∧
        manifest.placeFault? action = none ∧ manifest.datasourceFault? action = none := by
  induction actions generalizing earlier with
  | nil => simp [actionFault?]
  | cons action rest ih =>
      unfold actionFault?
      by_cases repeated : action.id ∈ earlier
      · simp [repeated]
      · have new : earlier.contains action.id = false := by simpa using repeated
        rw [new, if_neg Bool.false_ne_true, Option.or_eq_none_iff, Option.or_eq_none_iff, ih,
          List.map_cons, List.nodup_cons, List.forall_mem_cons]
        constructor
        · rintro ⟨own, distinct, others⟩
          refine ⟨⟨fun member => ?_, distinct⟩, ⟨repeated, own⟩, fun other member => ?_⟩
          · obtain ⟨twin, present, same⟩ := List.mem_map.mp member
            exact (others twin present).1 (same ▸ List.mem_cons_self)
          · obtain ⟨unseen, sound⟩ := others other member
            exact ⟨fun seen => unseen (List.mem_cons_of_mem _ seen), sound⟩
        · rintro ⟨⟨alone, distinct⟩, ⟨-, own⟩, others⟩
          refine ⟨own, distinct, fun other member => ⟨fun seen => ?_, (others other member).2⟩⟩
          rcases List.mem_cons.mp seen with same | before
          · exact alone (List.mem_map.mpr ⟨other, member, same⟩)
          · exact (others other member).1 before

/-- Every base of a manifest without that fault is an action of it. -/
theorem baseFault?_eq_none_iff :
    manifest.baseFault? = none ↔
      ∀ action ∈ manifest.actions, manifest.hasAction action.baseId = true := by
  simp only [baseFault?, Option.map_eq_none_iff, List.find?_eq_none, Bool.and_eq_true,
    Bool.not_eq_true', not_and, Bool.not_eq_false]
  refine forall₂_congr fun action member => ⟨fun copied => ?_, fun based _ => based⟩
  by_cases line : action.isDefaultLine = true
  · exact (hasAction_iff _).mpr ⟨action, member, beq_iff_eq.mp line⟩
  · exact copied (Bool.eq_false_iff.mpr line)

/-- **Exactly the sound manifests are accepted.** -/
theorem fault?_eq_none_iff : manifest.fault? = none ↔ manifest.Sound := by
  rw [fault?, Option.or_eq_none_iff, actionFault?_eq_none_iff, baseFault?_eq_none_iff]
  constructor
  · rintro ⟨⟨distinct, each⟩, based⟩
    exact {
      distinct := distinct
      owned := fun action member => (placeFault?_eq_none_iff action).mp (each action member).2.1
      sourced := fun action member =>
        (datasourceFault?_eq_none_iff action).mp (each action member).2.2
      based := based }
  · intro sound
    refine ⟨⟨sound.distinct, fun action member => ⟨List.not_mem_nil, ?_, ?_⟩⟩, sound.based⟩
    · exact (placeFault?_eq_none_iff action).mpr (sound.owned action member)
    · exact (datasourceFault?_eq_none_iff action).mpr (sound.sourced action member)

section Parsing

variable {known : Variables} {content : String} {format : DocumentFormat}

/-- A manifest is accepted when the document reads, decodes to it and it has no fault. -/
theorem parse_eq_ok_iff :
    parse known content format = .ok manifest ↔
      ∃ document, format.read content = .ok document ∧
        known.decode decoder document = .ok manifest ∧ manifest.fault? = none := by
  unfold parse
  cases format.read content with
  | error reason => simp [bind, Except.bind]
  | ok document =>
      cases decoded : known.decode decoder document with
      | error reason => simp [bind, Except.bind, decoded]
      | ok other =>
          simp only [bind, Except.bind, decoded, Except.ok.injEq, exists_eq_left']
          cases faulty : other.fault? with
          | some fault =>
              simp only [reduceCtorEq, false_iff, not_and]
              rintro rfl
              simp [faulty]
          | none =>
              simp only [Except.ok.injEq, iff_self_and]
              rintro rfl
              exact faulty

/-- Manifests that were accepted are sound. -/
theorem sound_of_parse (accepted : parse known content format = .ok manifest) :
    manifest.Sound := by
  obtain ⟨-, -, -, faultless⟩ := parse_eq_ok_iff.mp accepted
  exact fault?_eq_none_iff.mp faultless

/-- A manifest is accepted when it is what is left of the result, errors aside. -/
theorem parse_of_toOption
    (parsed : (parse known content format).toOption = some manifest) :
    parse known content format = .ok manifest := by
  cases result : parse known content format with
  | error reason =>
      rw [result] at parsed
      exact nomatch parsed
  | ok other =>
      rw [result] at parsed
      exact congrArg Except.ok (Option.some.inj parsed)

end Parsing

end Manifest

namespace OrderedMap

variable {β : Type}

/-- Write values one after the other, each under its own id. -/
def fileAll (idOf : β → String) (map : OrderedMap β) (values : List β) : OrderedMap β :=
  values.foldl (fun map value => map.insert (idOf value) value) map

/-- Of several values with one id the last is found. -/
theorem get?_fileAll (idOf : β → String) (map : OrderedMap β) (values : List β) (name : String) :
    (map.fileAll idOf values).get? name =
      (values.reverse.find? fun value => idOf value == name).or (map.get? name) := by
  induction values generalizing map with
  | nil => rfl
  | cons value rest ih =>
      have step : map.fileAll idOf (value :: rest) =
          (map.insert (idOf value) value).fileAll idOf rest := rfl
      rw [step, ih, get?_insert, List.reverse_cons, List.find?_append, Option.or_assoc]
      congr 1
      by_cases same : name = idOf value
      · simp [same]
      · have other : (idOf value == name) = false := beq_false_of_ne (Ne.symm same)
        simp [same, other]

/-- Of several values with one id, the last one is filed. -/
theorem get?_fileAll_empty (idOf : β → String) (values : List β) (name : String) :
    (empty.fileAll idOf values).get? name =
      values.reverse.find? fun value => idOf value == name := by
  rw [get?_fileAll]
  exact Option.or_none

end OrderedMap

namespace Definitions

variable (manifest : Manifest)

/-- Writing applications one by one files them all and touches nothing else. -/
theorem foldl_putApplication (applications : List Application) (definitions : Definitions) :
    applications.foldl putApplication definitions = { definitions with
      applications := definitions.applications.fileAll Application.id applications } := by
  induction applications generalizing definitions with
  | nil => rfl
  | cons application rest ih => exact ih (definitions.putApplication application)

/-- Writing datasources one by one files them all and touches nothing else. -/
theorem foldl_putDatasource (datasources : List Datasource) (definitions : Definitions) :
    datasources.foldl putDatasource definitions = { definitions with
      datasources := definitions.datasources.fileAll Datasource.id datasources } := by
  induction datasources generalizing definitions with
  | nil => rfl
  | cons datasource rest ih => exact ih (definitions.putDatasource datasource)

/-- Writing actions one by one files them all and touches nothing else. -/
theorem foldl_putAction (actions : List Action) (definitions : Definitions) :
    actions.foldl putAction definitions = { definitions with
      actions := definitions.actions.fileAll Action.id actions } := by
  induction actions generalizing definitions with
  | nil => rfl
  | cons action rest ih => exact ih (definitions.putAction action)

/-- The definitions of a manifest are its records, each kind on its own. -/
theorem ofManifest_eq : ofManifest manifest = {
    applications := OrderedMap.empty.fileAll Application.id manifest.applications
    actions := OrderedMap.empty.fileAll Action.id manifest.actions
    datasources := OrderedMap.empty.fileAll Datasource.id manifest.datasources } := by
  simp only [ofManifest, putManifest, foldl_putApplication, foldl_putDatasource, foldl_putAction]
  rfl

theorem filed_ofManifest : (ofManifest manifest).Filed := by
  have each {β : Type} (idOf : β → String) (values : List β) :
      (OrderedMap.empty.fileAll idOf values).FiledBy idOf :=
    List.foldlRecOn values _ (OrderedMap.filedBy_empty idOf) fun _ filed value _ =>
      filed.insert value
  rw [ofManifest_eq]
  exact ⟨each _ _, each _ _, each _ _⟩

/-- An application is found by its id as in the manifest. -/
theorem application?_ofManifest (id : String) :
    (ofManifest manifest).application? id = manifest.application? id := by
  rw [ofManifest_eq]
  exact OrderedMap.get?_fileAll_empty ..

/-- Of several actions with one id, the last one is found. -/
theorem action?_ofManifest (id : String) :
    (ofManifest manifest).action? id =
      manifest.actions.reverse.find? fun action => action.id == id := by
  rw [ofManifest_eq]
  exact OrderedMap.get?_fileAll_empty ..

/-- Of several datasources with one id, the last one is found. -/
theorem datasource?_ofManifest (id : String) :
    (ofManifest manifest).datasource? id =
      manifest.datasources.reverse.find? fun datasource => datasource.id == id := by
  rw [ofManifest_eq]
  exact OrderedMap.get?_fileAll_empty ..

variable {manifest}

/-- What is found is an action of the manifest. -/
theorem mem_actions_of_action?_ofManifest {id : String} {action : Action}
    (found : (ofManifest manifest).action? id = some action) : action ∈ manifest.actions := by
  rw [action?_ofManifest] at found
  exact List.mem_reverse.mp (List.mem_of_find?_eq_some found)

/-- An action that the manifest has is found. -/
theorem exists_action?_ofManifest {id : String} (held : manifest.hasAction id = true) :
    ∃ action, (ofManifest manifest).action? id = some action := by
  rw [action?_ofManifest, ← Option.isSome_iff_exists, List.find?_isSome]
  obtain ⟨action, member, same⟩ := (Manifest.hasAction_iff id).mp held
  exact ⟨action, List.mem_reverse.mpr member, beq_iff_eq.mpr same⟩

/-- A datasource that the manifest has is found. -/
theorem exists_datasource?_ofManifest {id : String} (held : manifest.hasDatasource id = true) :
    ∃ datasource, (ofManifest manifest).datasource? id = some datasource := by
  rw [datasource?_ofManifest, ← Option.isSome_iff_exists, List.find?_isSome]
  obtain ⟨datasource, member, same⟩ := List.any_eq_true.mp held
  exact ⟨datasource, List.mem_reverse.mpr member, same⟩

end Definitions

end ActionGateway
