import ActionGateway.Execution.Executor
import ActionGateway.Proofs.OrderedMaps
import Mathlib.Data.List.Induction

/-!
# Who is registered last

Registering an executor takes the place of the one that was registered for its kind before, and
leaves every other kind alone. So after any number of registrations a kind is served by the executor
that was registered last for it.
-/

namespace ActionGateway

/-- Writing a field of an object changes what is found under its name and nothing else. -/
theorem Json.lookup_putField {α : Type} (name other : String) (value : α)
    (fields : List (String × α)) :
    (putField name value fields).lookup other =
      if other = name then some value else fields.lookup other := by
  induction fields with
  | nil => exact OrderedMap.lookup_cons_eq_ite (name, value) [] other
  | cons field rest ih =>
      rw [putField]
      by_cases before : name < field.1
      · rw [if_pos before]
        exact OrderedMap.lookup_cons_eq_ite (name, value) (field :: rest) other
      · rw [if_neg before]
        by_cases written : name = field.1
        · rw [if_pos written, OrderedMap.lookup_cons_eq_ite, OrderedMap.lookup_cons_eq_ite, written]
          by_cases same : other = field.1 <;> simp only [same, ↓reduceIte]
        · rw [if_neg written, OrderedMap.lookup_cons_eq_ite, OrderedMap.lookup_cons_eq_ite, ih]
          by_cases same : other = name
          · simp only [same, written, ↓reduceIte]
          · simp only [same, ↓reduceIte]

namespace ExecutorRegistry

/-- A registered executor answers for its kind, the others as before. -/
theorem get?_register (registry : ExecutorRegistry) (executor : Executor) (kind : String) :
    (registry.register executor).get? kind =
      if kind = executor.kind then some executor else registry.get? kind :=
  Json.lookup_putField executor.kind kind executor registry.executors

/-- The registry after executors were registered one after the other. -/
def ofList (executors : List Executor) : ExecutorRegistry :=
  executors.foldl register empty

/-- Of the executors of a kind, this one comes last. -/
def IsLastOfKind (executors : List Executor) (kind : String) (executor : Executor) : Prop :=
  ∃ before after, executors = before ++ executor :: after ∧ executor.kind = kind ∧
    ∀ later ∈ after, later.kind ≠ kind

namespace IsLastOfKind

variable {executors : List Executor} {kind : String} {executor : Executor}

/-- The last executor of a kind is one of the executors. -/
theorem mem (last : IsLastOfKind executors kind executor) : executor ∈ executors := by
  obtain ⟨before, after, rfl, -⟩ := last
  exact List.mem_append_right _ List.mem_cons_self

theorem kind_eq (last : IsLastOfKind executors kind executor) : executor.kind = kind := by
  obtain ⟨before, after, -, ofKind, -⟩ := last
  exact ofKind

end IsLastOfKind

/-- **A kind is served by the executor registered last for it**, and by none only if none was
registered for it. -/
theorem get?_ofList (executors : List Executor) (kind : String) :
    match (ofList executors).get? kind with
    | some executor => IsLastOfKind executors kind executor
    | none => ∀ executor ∈ executors, executor.kind ≠ kind := by
  -- Each registration comes last of all, so the list grows at its end.
  induction executors using List.reverseRecOn with
  | nil => exact fun _ member => nomatch member
  | append_singleton earlier executor ih =>
      have step : (ofList (earlier ++ [executor])).get? kind =
          if kind = executor.kind then some executor else (ofList earlier).get? kind := by
        rw [ofList, List.foldl_append]
        exact get?_register (ofList earlier) executor kind
      rw [step]
      by_cases same : kind = executor.kind
      · rw [if_pos same]
        exact ⟨earlier, [], rfl, same.symm, fun _ member => nomatch member⟩
      · rw [if_neg same]
        have other : ∀ later ∈ [executor], later.kind ≠ kind := by
          intro later member
          rw [List.mem_singleton.mp member]
          exact Ne.symm same
        cases found : (ofList earlier).get? kind with
        | some holder =>
            rw [found] at ih
            obtain ⟨before, after, split, ofKind, last⟩ := ih
            refine ⟨before, after ++ [executor], ?_, ofKind, ?_⟩
            · rw [split, List.append_assoc, List.cons_append]
            · intro later member
              rcases List.mem_append.mp member with earlier | added
              · exact last later earlier
              · exact other later added
        | none =>
            rw [found] at ih
            intro later member
            rcases List.mem_append.mp member with earlier | added
            · exact ih later earlier
            · exact other later added

end ExecutorRegistry

end ActionGateway
