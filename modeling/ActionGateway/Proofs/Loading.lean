import ActionGateway.Resolution.Context

/-!
# Where a context comes from

A context is read from the definitions by up to four look-ups: the requested action, its
application, the base or the copy that a branch leads to, and the datasource. `Selects` says which
version of the requested action a branch stands for, and `load_eq_ok_iff` what else has to be found
for a context.
-/

namespace ActionGateway

namespace Reading

variable {α β : Type}

/-- Running one reading and going on with another is running both. -/
theorem run_andThen (reader : DefinitionReader) (first : Reading α) (next : α → Reading β) :
    (first.andThen next).run reader =
      (first.run reader).bind fun value => (next value).run reader := by
  induction first with
  | done value => rfl
  | rejected reason => rfl
  | application id rest ih =>
      simp only [andThen, run]
      cases reader.application id with
      | ok found => exact ih found
      | error cause => rfl
  | action id rest ih =>
      simp only [andThen, run]
      cases reader.action id with
      | ok found => exact ih found
      | error cause => rfl
  | copyOnBranch base branch rest ih =>
      simp only [andThen, run]
      cases reader.copyOnBranch base branch with
      | ok found => exact ih found
      | error cause => rfl
  | datasource id rest ih =>
      simp only [andThen, run]
      cases reader.datasource id with
      | ok found => exact ih found
      | error cause => rfl

/-- One look-up by hand leaves the outcome as it is. -/
theorem run_step (reader : DefinitionReader) (reading : Reading α) :
    (reading.step reader).run reader = reading.run reader := by
  cases reading with
  | done value => rfl
  | rejected reason => rfl
  | application id next =>
      simp only [step, run]
      cases reader.application id <;> rfl
  | action id next =>
      simp only [step, run]
      cases reader.action id <;> rfl
  | copyOnBranch base branch next =>
      simp only [step, run]
      cases reader.copyOnBranch base branch <;> rfl
  | datasource id next =>
      simp only [step, run]
      cases reader.datasource id <;> rfl

/-- Nothing is left to look up. -/
def isOver : Reading α → Bool
  | done _ | rejected _ => true
  | _ => false

/-- What holds of readings that are over, and of a reading when it holds after its next look-up,
holds of every reading. -/
theorem step_induction (reader : DefinitionReader) {motive : Reading α → Prop}
    (ended : ∀ reading, reading.isOver = true → motive reading)
    (lookUp : ∀ reading, reading.isOver = false → motive (reading.step reader) → motive reading)
    (reading : Reading α) : motive reading := by
  have receive {β : Type} (answer : Except StoreError (Option β)) (next : Option β → Reading α)
      (ih : ∀ found, motive (next found)) : motive (receive answer next) := by
    cases answer with
    | ok found => exact ih found
    | error cause => exact ended _ rfl
  induction reading with
  | done value => exact ended _ rfl
  | rejected reason => exact ended _ rfl
  | application id next ih => exact lookUp _ rfl (receive (reader.application id) next ih)
  | action id next ih => exact lookUp _ rfl (receive (reader.action id) next ih)
  | copyOnBranch base branch next ih =>
      exact lookUp _ rfl (receive (reader.copyOnBranch base branch) next ih)
  | datasource id next ih => exact lookUp _ rfl (receive (reader.datasource id) next ih)

/-- Rejecting what is missing succeeds with what is there. -/
theorem run_orReject_eq_ok_iff (reader : DefinitionReader) (found : Option α) (reason : Rejection)
    (value : α) : (orReject found reason).run reader = .ok value ↔ found = some value := by
  cases found with
  | none => exact ⟨nofun, nofun⟩
  | some other => simp only [orReject, run, Except.ok.injEq, Option.some.injEq]

end Reading

/-- What a view mode asks for is one of the sides of an action. -/
theorem Action.mem_sides_of_definition? {action : Action} {viewMode : ViewMode}
    {definition : ActionDefinition} (side : action.definition? viewMode = some definition) :
    definition ∈ action.draft :: action.published.toList := by
  cases viewMode with
  | edit =>
      cases side
      exact List.mem_cons_self
  | view => exact List.mem_cons_of_mem _ (Option.mem_toList.mpr side)

namespace Definitions

/-- **The version that a branch stands for.** Without a branch it is the requested action itself. -/
inductive Selects (definitions : Definitions) (requested : Action) :
    Option String → Action → Prop where
  | itself : Selects definitions requested none requested
  | onBranch {branch : String} :
      requested.branchName = some branch →
      Selects definitions requested (some branch) requested
  | defaultLine {branch : String} {application : Application} :
      requested.branchName ≠ some branch →
      definitions.application? requested.applicationId = some application →
      application.isDefaultBranch branch = true →
      requested.isDefaultLine = true →
      Selects definitions requested (some branch) requested
  | base {branch : String} {application : Application} {action : Action} :
      requested.branchName ≠ some branch →
      definitions.application? requested.applicationId = some application →
      application.isDefaultBranch branch = true →
      requested.isDefaultLine = false →
      definitions.action? requested.baseId = some action →
      Selects definitions requested (some branch) action
  | copy {branch : String} {application : Application} {action : Action} :
      requested.branchName ≠ some branch →
      definitions.application? requested.applicationId = some application →
      application.isDefaultBranch branch = false →
      application.hasBranch branch = true →
      definitions.copyOnBranch? requested.baseId branch = some action →
      Selects definitions requested (some branch) action

/-- The rest of a context, given its action: the side that the view mode asks for, its datasource,
and the storage of the environment. -/
structure Provides (definitions : Definitions) (key : ContextKey) (context : ResolvedContext) :
    Prop where
  definition : context.action.definition? key.viewMode = some context.definition
  datasource : definitions.datasource? context.definition.datasourceId = some context.datasource
  storage : context.datasource.storage? key.environmentId = some context.storage
  viewMode : context.viewMode = key.viewMode
  environmentId : context.environmentId = key.environmentId

end Definitions

namespace ContextKey

/-- The version is selected first; the rest of the context comes from it. -/
theorem load_eq_bind (reader : DefinitionReader) (key : ContextKey) :
    key.load reader = (key.selectAction.run reader).bind fun action =>
      (key.contextOf action).run reader :=
  Reading.run_andThen reader key.selectAction key.contextOf

variable (definitions : Definitions)

/-- Choosing the line of an action on a named branch gives the action selected there. -/
theorem run_onBranch_eq_ok_iff (requested action : Action) (branch : String) :
    (onBranch requested branch).run definitions.reader = .ok action ↔
      definitions.Selects requested (some branch) action := by
  constructor
  · intro selected
    unfold onBranch at selected
    by_cases same : requested.branchName = some branch
    · rw [if_pos same] at selected
      cases selected
      exact .onBranch same
    · rw [if_neg same] at selected
      cases owner : definitions.application? requested.applicationId with
      | none => simp [Reading.run, Definitions.reader, owner] at selected
      | some application =>
          simp only [Reading.run, Definitions.reader, owner] at selected
          by_cases main : application.isDefaultBranch branch = true
          · rw [if_pos main] at selected
            by_cases line : requested.isDefaultLine = true
            · rw [if_pos line] at selected
              cases selected
              exact .defaultLine same owner main line
            · rw [if_neg line] at selected
              have found := (Reading.run_orReject_eq_ok_iff _ _ _ _).mp selected
              exact .base same owner main (Bool.eq_false_iff.mpr line) found
          · rw [if_neg main] at selected
            by_cases listed : application.hasBranch branch = true
            · rw [if_pos listed] at selected
              have found := (Reading.run_orReject_eq_ok_iff _ _ _ _).mp selected
              exact .copy same owner (Bool.eq_false_iff.mpr main) listed found
            · rw [if_neg listed] at selected
              exact nomatch selected
  · intro selects
    unfold onBranch
    cases selects with
    | onBranch same =>
        rw [if_pos same]
        rfl
    | defaultLine same owner main line =>
        simp only [same, ↓reduceIte, Reading.run, Definitions.reader, owner, main, line]
    | base same owner main line found =>
        simp [same, Reading.run, Definitions.reader, owner, main, line, found, Reading.orReject]
    | copy same owner main listed found =>
        simp [same, Reading.run, Definitions.reader, owner, main, listed, found, Reading.orReject]

/-- A key finds an action just when its id names one and the branch selects it. -/
theorem run_selectAction_eq_ok_iff (key : ContextKey) (action : Action) :
    key.selectAction.run definitions.reader = .ok action ↔
      ∃ requested, definitions.action? key.actionId = some requested ∧
        definitions.Selects requested key.branch action := by
  unfold selectAction
  cases found : definitions.action? key.actionId with
  | none => simp [Reading.run, Definitions.reader, found]
  | some requested =>
      simp only [Reading.run, Definitions.reader, found, Option.some.injEq, exists_eq_left']
      cases key.branch with
      | none =>
          constructor
          · rintro ⟨⟩
            exact .itself
          · rintro ⟨⟩
            rfl
      | some branch => exact run_onBranch_eq_ok_iff definitions requested action branch

/-- The context of an action is what the definitions provide for the key. -/
theorem run_contextOf_eq_ok_iff (key : ContextKey) (action : Action) (context : ResolvedContext) :
    (key.contextOf action).run definitions.reader = .ok context ↔
      context.action = action ∧ definitions.Provides key context := by
  constructor
  · intro read
    unfold contextOf at read
    cases side : action.definition? key.viewMode with
    | none => simp [side, Reading.run] at read
    | some definition =>
        cases found : definitions.datasource? definition.datasourceId with
        | none => simp [side, Reading.run, Definitions.reader, found] at read
        | some datasource =>
            cases stored : datasource.storage? key.environmentId with
            | none => simp [side, Reading.run, Definitions.reader, found, stored] at read
            | some storage =>
                simp only [side, Reading.run, Definitions.reader, found, stored] at read
                cases read
                exact ⟨rfl, side, found, stored, rfl, rfl⟩
  · rintro ⟨rfl, side, found, stored, mode, environment⟩
    unfold contextOf
    simp only [side, Reading.run, Definitions.reader, found, stored]
    rw [← mode, ← environment]

/-- **What a context is made of.** A key has a context exactly when the requested action is found,
its branch stands for the action of the context, and the rest of the context is provided. -/
theorem load_eq_ok_iff (key : ContextKey) (context : ResolvedContext) :
    key.load definitions.reader = .ok context ↔
      (∃ requested, definitions.action? key.actionId = some requested ∧
        definitions.Selects requested key.branch context.action) ∧
      definitions.Provides key context := by
  rw [load_eq_bind, ← run_selectAction_eq_ok_iff]
  constructor
  · intro loaded
    cases selected : key.selectAction.run definitions.reader with
    | error reason =>
        rw [selected] at loaded
        exact nomatch loaded
    | ok action =>
        rw [selected] at loaded
        obtain ⟨rfl, provides⟩ :=
          (run_contextOf_eq_ok_iff definitions key action context).mp loaded
        exact ⟨rfl, provides⟩
  · rintro ⟨selected, provides⟩
    rw [selected]
    exact (run_contextOf_eq_ok_iff definitions key _ context).mpr ⟨rfl, provides⟩

end ContextKey

end ActionGateway
