import ActionGateway.Json.Basic

/-!
# Places in a value

A place in a value is reached from its root by steps into fields of objects and items of arrays.
-/

namespace ActionGateway.Json

/-- A step into a value. -/
inductive Step where
  | field (name : String)
  | item (index : Nat)
  deriving DecidableEq, Repr

/-- The field or the item that a step leads to. -/
def child? : Json → Step → Option Json
  | .obj fields, .field name => fields.lookup name
  | .arr items, .item index => items[index]?
  | _, _ => none

/-- **The value at a place.** -/
def at? (value : Json) : List Step → Option Json
  | [] => some value
  | step :: rest => (value.child? step).bind fun child => child.at? rest

/-- A scalar has no children. -/
theorem child?_of_isScalar {value : Json} (scalar : value.isScalar = true) (step : Step) :
    value.child? step = none := by
  cases value with
  | arr items => exact nomatch scalar
  | obj fields => exact nomatch scalar
  | _ => rfl

/-! ## Another value at a place -/

/-- Change the value of the first field of a name. -/
def changeField (name : String) (change : Json → Json) :
    List (String × Json) → List (String × Json)
  | [] => []
  | field :: rest =>
    if name = field.1 then (field.1, change field.2) :: rest
    else field :: changeField name change rest

/-- Change the field or the item that a step leads to. -/
def changeChild : Json → Step → (Json → Json) → Json
  | .obj fields, .field name, change => .obj (changeField name change fields)
  | .arr items, .item index, change => .arr (items.modify index change)
  | value, _, _ => value

/-- **The value with another one at a place**, if it has the place. -/
def putAt (value : Json) (place : List Step) (new : Json) : Json :=
  match place with
  | [] => new
  | step :: rest => value.changeChild step fun child => child.putAt rest new

variable {value child : Json} {name : String} {fields : List (String × Json)} {step : Step}
  {change : Json → Json}

/-- A changed field is found changed. -/
theorem lookup_changeField (found : fields.lookup name = some child) :
    (changeField name change fields).lookup name = some (change child) := by
  induction fields with
  | nil => exact nomatch found
  | cons field rest ih =>
      by_cases same : name = field.1
      · rw [List.lookup_cons, same, beq_self_eq_true] at found
        cases found
        rw [changeField, if_pos same, List.lookup_cons, same, beq_self_eq_true]
      · have other : (name == field.1) = false := beq_eq_false_iff_ne.mpr same
        rw [List.lookup_cons, other] at found
        rw [changeField, if_neg same, List.lookup_cons, other]
        exact ih found

/-- A change that keeps the value of the field keeps the fields. -/
theorem changeField_eq_self (found : fields.lookup name = some child)
    (kept : change child = child) : changeField name change fields = fields := by
  induction fields with
  | nil => rfl
  | cons field rest ih =>
      by_cases same : name = field.1
      · rw [List.lookup_cons, same, beq_self_eq_true] at found
        cases found
        rw [changeField, if_pos same, kept]
      · have other : (name == field.1) = false := beq_eq_false_iff_ne.mpr same
        rw [List.lookup_cons, other] at found
        rw [changeField, if_neg same, ih found]

/-- A changed child is found changed. -/
theorem child?_changeChild (found : value.child? step = some child) :
    (value.changeChild step change).child? step = some (change child) := by
  cases value with
  | obj fields =>
      cases step with
      | item index => exact nomatch found
      | field name => exact lookup_changeField found
  | arr items =>
      cases step with
      | field name => exact nomatch found
      | item index =>
          rw [child?] at found
          rw [changeChild, child?, List.getElem?_modify_eq, found]
          rfl
  | null | bool _ | num _ | str _ => exact nomatch found

/-- A change that keeps the child keeps the value. -/
theorem changeChild_eq_self (found : value.child? step = some child)
    (kept : change child = child) : value.changeChild step change = value := by
  cases value with
  | obj fields =>
      cases step with
      | item index => rfl
      | field name => rw [changeChild, changeField_eq_self found kept]
  | arr items =>
      cases step with
      | field name => rfl
      | item index =>
          obtain ⟨bound, rfl⟩ := List.getElem?_eq_some_iff.mp found
          have same : items.modify index change = items := by
            simp [List.modify_eq_set, bound, kept]
          rw [changeChild, same]
  | null | bool _ | num _ | str _ => rfl

/-- What is put at a place is found there. -/
theorem at?_putAt {place : List Step} {old : Json} (found : value.at? place = some old)
    (new : Json) : (value.putAt place new).at? place = some new := by
  induction place generalizing value with
  | nil => rfl
  | cons step rest ih =>
      obtain ⟨child, here, below⟩ := Option.bind_eq_some_iff.mp found
      rw [putAt, at?, child?_changeChild here]
      exact ih below

/-- Putting back what stands at a place changes nothing. -/
theorem putAt_eq_self {place : List Step} {old : Json} (found : value.at? place = some old) :
    value.putAt place old = value := by
  induction place generalizing value with
  | nil => exact (Option.some.inj found).symm
  | cons step rest ih =>
      obtain ⟨child, here, below⟩ := Option.bind_eq_some_iff.mp found
      exact changeChild_eq_self here (ih below)

end ActionGateway.Json
