import ActionGateway.Proofs.VariableReferences

/-!
# Checking references and resolving them

Both go through the references of a value in the same order and end at the first one that they
refuse. A check refuses a reference for its name. A resolution refuses it for its name too, and
also when there is no text for it. So they differ only where an allowed variable is missing.
-/

namespace ActionGateway

section Refusals

variable {ε α β : Type}

/-- The reason of a failure. -/
def refusal? : Except ε α → Option ε
  | .error reason => some reason
  | .ok _ => none

/-- The refusal of a result is its error. -/
theorem refusal?_eq_some_iff {result : Except ε α} {reason : ε} :
    refusal? result = some reason ↔ result = .error reason := by
  cases result with
  | error other => simp only [refusal?, Option.some.injEq, Except.error.injEq]
  | ok value => simp only [refusal?, reduceCtorEq]

/-- A result without one has succeeded. -/
theorem refusal?_eq_none_iff {result : Except ε α} :
    refusal? result = none ↔ ∃ value, result = .ok value := by
  cases result with
  | error reason => exact iff_of_false nofun nofun
  | ok value => exact iff_of_true rfl ⟨value, rfl⟩

/-- Changing the value changes no refusal. -/
theorem refusal?_map (result : Except ε α) (f : α → β) :
    refusal? (result.map f) = refusal? result := by
  cases result <;> rfl

/-- The first of two failures counts, if the second one does not depend on what came before. -/
theorem refusal?_bind {first : Except ε α} {next : α → Except ε β} {later : Option ε}
    (same : ∀ value, refusal? (next value) = later) :
    refusal? (first >>= next) = (refusal? first).or later := by
  cases first with
  | error reason => rfl
  | ok value => exact same value

theorem refusal?_bind_ok (first : Except ε α) (f : α → β) :
    refusal? (first >>= fun value => .ok (f value)) = refusal? first := by
  cases first <;> rfl

end Refusals

namespace Variables

variable (known : Variables)

/-! ## The first refusal counts -/

/-- Pieces are refused for the first reference that is. -/
theorem refusal?_renderPieces (pieces : List (VariableReference × List Char)) :
    refusal? (known.renderPieces pieces) =
      (pieces.map Prod.fst).findSome? fun reference => refusal? (known.textOf reference) := by
  induction pieces with
  | nil => rfl
  | cons piece rest ih =>
      rw [renderPieces, refusal?_bind fun _ => refusal?_bind_ok _ _, ih, List.map_cons,
        List.findSome?_cons]
      cases refusal? (known.textOf piece.1) <;> rfl

/-- A text is refused for the first of its references that has no text. -/
theorem refusal?_resolveText (text : String) :
    refusal? (known.resolveText text) =
      (referencesOfText text).findSome? fun reference => refusal? (known.textOf reference) := by
  unfold resolveText referencesOfText
  cases whole : Text.wholeMarker? VariableReference.recognise text.toList with
  | some reference =>
      have cut := Text.cut_of_wholeMarker? rfl whole
      simp only [refusal?_map, cut, Text.Pieces.markers, List.map_cons, List.map_nil,
        List.findSome?_cons, List.findSome?_nil]
      cases refusal? (known.textOf reference) <;> rfl
  | none =>
      dsimp only
      rw [refusal?_bind_ok, refusal?_renderPieces]
      rfl

mutual

/-- **A resolution ends at the first reference without a text**, in the order of the references. -/
theorem refusal?_resolve (value : Json) :
    refusal? (known.resolve value) =
      (references value).findSome? fun reference => refusal? (known.textOf reference) := by
  cases value with
  | str text => exact refusal?_resolveText known text
  | arr items =>
      rw [resolve, refusal?_bind_ok, references]
      exact refusal?_resolveItems items
  | obj fields =>
      rw [resolve, refusal?_bind_ok, references]
      exact refusal?_resolveFields fields
  | _ => rfl

theorem refusal?_resolveItems (items : List Json) :
    refusal? (known.resolveItems items) =
      (itemReferences items).findSome? fun reference => refusal? (known.textOf reference) := by
  cases items with
  | nil => rfl
  | cons item rest =>
      rw [resolveItems, refusal?_bind fun _ => refusal?_bind_ok _ _, refusal?_resolve item,
        refusal?_resolveItems rest, itemReferences, List.findSome?_append]

theorem refusal?_resolveFields (fields : List (String × Json)) :
    refusal? (known.resolveFields fields) =
      (fieldReferences fields).findSome? fun reference => refusal? (known.textOf reference) := by
  cases fields with
  | nil => rfl
  | cons field rest =>
      rw [resolveFields, refusal?_bind fun _ => refusal?_bind_ok _ _, refusal?_resolve field.2,
        refusal?_resolveFields rest, fieldReferences, List.findSome?_append]

end

/-- References are checked in their order up to the first refusal. -/
theorem refusal?_checkReferences (found : List VariableReference) :
    refusal? (known.checkReferences found) =
      found.findSome? fun reference => refusal? (known.checkName reference.name) := by
  induction found with
  | nil => rfl
  | cons reference rest ih =>
      rw [checkReferences, refusal?_bind fun _ => ih, List.findSome?_cons]
      cases refusal? (known.checkName reference.name) <;> rfl

/-! ## What one reference is refused for -/

/-- A name is refused in the check just when it is not allowed. -/
theorem refusal?_checkName_eq_some_iff (name : String) (reason : VariableError) :
    refusal? (known.checkName name) = some reason ↔
      known.allows name = false ∧ reason = .notAllowed name known.allowedPrefixes := by
  unfold checkName
  by_cases allowed : known.allows name = true
  · simp only [allowed, ↓reduceIte, refusal?, reduceCtorEq, Bool.true_eq_false, false_and]
  · simp only [allowed, Bool.false_eq_true, ↓reduceIte, refusal?, Option.some.injEq, true_and,
      eq_comm (a := reason)]

theorem refusal?_checkName_eq_none_iff (name : String) :
    refusal? (known.checkName name) = none ↔ known.allows name = true := by
  unfold checkName
  by_cases allowed : known.allows name = true
  · simp only [allowed, ↓reduceIte, refusal?]
  · simp only [allowed, Bool.false_eq_true, ↓reduceIte, refusal?, reduceCtorEq]

/-- A reference to a name that is not allowed has no text. -/
theorem textOf_of_not_allowed {reference : VariableReference}
    (refused : known.allows reference.name = false) :
    known.textOf reference = .error (.notAllowed reference.name known.allowedPrefixes) := by
  simp only [textOf, checkName, refused, Bool.false_eq_true, ↓reduceIte, bind, Except.bind]

/-- Of an allowed name only the variable itself can be missing. -/
theorem refusal?_textOf_of_allowed {reference : VariableReference}
    (allowed : known.allows reference.name = true) :
    refusal? (known.textOf reference) = none ∨
      refusal? (known.textOf reference) = some (.notFound reference.name) ∧
        known.lookup reference.name = none := by
  unfold textOf checkName
  simp only [allowed, ↓reduceIte, bind, Except.bind]
  cases known.lookup reference.name with
  | some text => exact .inl rfl
  | none =>
      cases reference.fallback with
      | some fallback => exact .inl rfl
      | none => exact .inr ⟨rfl, rfl⟩

/-- **What is refused for its name**: the first reference of a value, in their order, with a name
that is not allowed. -/
def RefusesName (value : Json) (reason : VariableError) : Prop :=
  ∃ before reference after, references value = before ++ reference :: after ∧
    (∀ earlier ∈ before, known.allows earlier.name = true) ∧
    known.allows reference.name = false ∧
    reason = .notAllowed reference.name known.allowedPrefixes

/-- A value is refused for the first of its names that is. -/
theorem check_eq_error_iff (value : Json) (reason : VariableError) :
    known.check value = .error reason ↔ known.RefusesName value reason := by
  rw [check, ← refusal?_eq_some_iff, refusal?_checkReferences, List.findSome?_eq_some_iff]
  simp only [refusal?_checkName_eq_some_iff, refusal?_checkName_eq_none_iff]
  constructor
  · rintro ⟨before, reference, after, split, ⟨own, same⟩, earlier⟩
    exact ⟨before, reference, after, split, earlier, own, same⟩
  · rintro ⟨before, reference, after, split, earlier, own, same⟩
    exact ⟨before, reference, after, split, ⟨own, same⟩, earlier⟩

/-- It passes just when all of its names are allowed. -/
theorem check_eq_ok_iff (value : Json) :
    known.check value = .ok () ↔
      ∀ reference ∈ references value, known.allows reference.name = true := by
  have passes : known.check value = .ok () ↔ refusal? (known.check value) = none := by
    rw [refusal?_eq_none_iff]
    exact ⟨fun passed => ⟨(), passed⟩, fun ⟨(), passed⟩ => passed⟩
  rw [passes, check, refusal?_checkReferences, List.findSome?_eq_none_iff]
  simp only [refusal?_checkName_eq_none_iff]

/-- Where every variable is set, a name is all that a reference can be refused for. -/
theorem refusal?_textOf_of_set {reference : VariableReference}
    (isSet : (known.lookup reference.name).isSome = true) :
    refusal? (known.textOf reference) = refusal? (known.checkName reference.name) := by
  by_cases allowed : known.allows reference.name = true
  · rw [(refusal?_checkName_eq_none_iff known _).mpr allowed]
    refine (refusal?_textOf_of_allowed known allowed).resolve_right fun missing => ?_
    rw [missing.2] at isSet
    exact nomatch isSet
  · rw [textOf_of_not_allowed known (Bool.eq_false_iff.mpr allowed), checkName, if_neg allowed]
    rfl

/-- **Checking and resolving agree.** A check fails exactly for the first reference with a name that
is not allowed. What can be resolved passes the check, what fails the check cannot be resolved, and
what passes it is not refused for a name. If the variables that a value refers to are set, its
resolution fails exactly when the check does, and for the same reference. -/
theorem check_agrees_with_resolve (value : Json) :
    (∀ reason, known.check value = .error reason ↔ known.RefusesName value reason) ∧
      (∀ result, known.resolve value = .ok result → known.check value = .ok ()) ∧
      (∀ reason, known.check value = .error reason →
        ∃ other, known.resolve value = .error other) ∧
      (known.check value = .ok () →
        ∀ name prefixes, known.resolve value ≠ .error (.notAllowed name prefixes)) ∧
      ((∀ reference ∈ references value, (known.lookup reference.name).isSome = true) →
        ∀ reason, known.resolve value = .error reason ↔ known.RefusesName value reason) := by
  have resolvable {result : Json} (resolved : known.resolve value = .ok result) :
      known.check value = .ok () := by
    rw [check_eq_ok_iff]
    intro reference member
    have unrefused := refusal?_eq_none_iff.mpr ⟨result, resolved⟩
    rw [refusal?_resolve, List.findSome?_eq_none_iff] at unrefused
    by_contra unnamed
    have refused := textOf_of_not_allowed known (Bool.eq_false_iff.mpr unnamed)
    exact nomatch (unrefused reference member).symm.trans (refusal?_eq_some_iff.mpr refused)
  refine ⟨check_eq_error_iff known value, fun result => resolvable, ?_, ?_, ?_⟩
  · intro reason failed
    cases resolved : known.resolve value with
    | error other => exact ⟨other, rfl⟩
    | ok result => exact nomatch failed.symm.trans (resolvable resolved)
  · intro passed name prefixes failed
    rw [← refusal?_eq_some_iff, refusal?_resolve] at failed
    obtain ⟨reference, member, refused⟩ := List.exists_of_findSome?_eq_some failed
    have allowed := (check_eq_ok_iff known value).mp passed reference member
    rcases refusal?_textOf_of_allowed known allowed with unrefused | ⟨missing, -⟩
    · exact nomatch unrefused.symm.trans refused
    · exact nomatch missing.symm.trans refused
  · intro set_ reason
    have same : refusal? (known.resolve value) = refusal? (known.check value) := by
      rw [refusal?_resolve, check, refusal?_checkReferences]
      rw [← List.head?_filterMap, ← List.head?_filterMap, List.filterMap_congr]
      exact fun reference member => refusal?_textOf_of_set known (set_ reference member)
    rw [← check_eq_error_iff, ← refusal?_eq_some_iff, same, refusal?_eq_some_iff]

end Variables

end ActionGateway
