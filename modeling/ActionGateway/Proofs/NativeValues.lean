import ActionGateway.Proofs.TemplateSegments

/-!
# Native values and their texts

A template in the place of a value may become any value: if it is exactly one placeholder, it
becomes what that stands for. Everywhere else it becomes a text. The two ways of rendering differ in
nothing but that: the text is the text of the value, and warnings and failures are the same.
-/

namespace ActionGateway

/-- The result with its value changed. -/
def Substituted.map {α β : Type} (change : α → β) (result : Substituted α) : Substituted β :=
  ⟨change result.value, result.warnings⟩

namespace Pass

variable {α β : Type}

/-- A pass that goes on by changing its value. -/
theorem bind_pure_eq_map (first : Pass α) (change : α → β) :
    (first >>= fun value => pure (change value)) = Except.map (Substituted.map change) first := by
  cases first with
  | error unresolved => rfl
  | ok result =>
      change Except.ok (⟨change result.value, result.warnings ++ []⟩ : Substituted β) = _
      rw [List.append_nil]
      rfl

/-- A pass that has a result and changes it. -/
theorem map_eq_ok {first : Pass α} {value : α} {warnings : List Unresolved}
    (begun : first = .ok ⟨value, warnings⟩) (change : α → β) :
    (first >>= fun value => pure (change value)) = .ok ⟨change value, warnings⟩ := by
  rw [bind_pure_eq_map, begun]
  rfl

/-- A pass that has a result and goes on to another one. -/
theorem bind_eq_ok {first : Pass α} {next : α → Pass β} {value : α} {result : β}
    {earlier later : List Unresolved} (begun : first = .ok ⟨value, earlier⟩)
    (ran : next value = .ok ⟨result, later⟩) :
    first >>= next = .ok ⟨result, earlier ++ later⟩ := by
  change Pass.andThen _ _ = _
  rw [begun, Pass.andThen, ran]

end Pass

namespace Substitution

variable (pass : Substitution) (path : List String)

/-- What the text of one placeholder is rendered as, by the loop that takes any number of them. -/
theorem renderText_of_whole {template name : String}
    (whole : Text.wholeMarker? Template.placeholder template.toList = some name) :
    pass.renderText path template =
      Except.map (Substituted.map String.ofList) (pass.renderPlaceholder path name) := by
  -- There is nothing before or after the placeholder.
  have literal : pass.renderLiteral path [] = .ok ⟨[], []⟩ := rfl
  unfold renderText
  simp only [Text.cut_of_wholeMarker? rfl whole, renderPieces, literal]
  cases pass.renderPlaceholder path name with
  | error unresolved => rfl
  | ok result =>
      simp only [bind, Pass.andThen, pure, Pass.done, List.append_nil, List.nil_append]
      rfl

/-- What one placeholder is rendered as by the shortcut for it. -/
theorem renderString_of_bound {template name : String} {value : Json}
    (whole : Text.wholeMarker? Template.placeholder template.toList = some name)
    (bound : pass.bindings.resolve? name = some value) :
    pass.renderString path template = .ok ⟨value, []⟩ := by
  unfold renderString
  simp only [whole, bound]
  rfl

/-- A template that is no placeholder with a value is rendered as a text. -/
theorem renderString_of_unbound {template : String}
    (unbound : ∀ name, Text.wholeMarker? Template.placeholder template.toList = some name →
      pass.bindings.resolve? name = none) :
    pass.renderString path template =
      Except.map (Substituted.map Json.str) (pass.renderText path template) := by
  cases whole : Text.wholeMarker? Template.placeholder template.toList with
  | none =>
      unfold renderString
      simp only [whole]
      exact Pass.bind_pure_eq_map _ _
  | some name =>
      rw [renderText_of_whole pass path whole]
      unfold renderString renderPlaceholder
      simp only [whole, unbound name whole]
      cases pass.unresolved path name with
      | error unresolved => rfl
      | ok result => rfl

/-- A rendered string is what a whole placeholder stands for, or a text. -/
theorem renderString_cases (template : String) :
    (∃ name value, Text.wholeMarker? Template.placeholder template.toList = some name ∧
      pass.bindings.resolve? name = some value ∧
      pass.renderString path template = .ok ⟨value, []⟩ ∧
      pass.renderText path template = .ok ⟨value.stringify, []⟩) ∨
    pass.renderString path template =
      Except.map (Substituted.map Json.str) (pass.renderText path template) := by
  by_cases bound : ∃ name value,
      Text.wholeMarker? Template.placeholder template.toList = some name ∧
        pass.bindings.resolve? name = some value
  · left
    obtain ⟨name, value, whole, found⟩ := bound
    refine ⟨name, value, whole, found, renderString_of_bound pass path whole found, ?_⟩
    rw [renderText_of_whole pass path whole, renderPlaceholder, found]
    change Except.ok (⟨String.ofList value.stringify.toList, []⟩ : Substituted String) = _
    rw [String.ofList_toList]
  · right
    apply renderString_of_unbound
    intro name whole
    apply Option.eq_none_iff_forall_ne_some.mpr
    intro value found
    exact bound ⟨name, value, whole, found⟩

end Substitution

open Substitution in
/-- **A template as a text is the text of the template as a value**, at every path and in either
mode, with the same warnings, and it fails where the other fails, on the same marker. A template as
a value is a text, unless it is exactly one placeholder with a value; then it is that value. -/
theorem substitute_text_eq_stringify (template : String) (bindings : Bindings)
    (mode : SubstitutionMode) :
    Shape.text.substitute template bindings mode =
        ((Json.str template).substitute bindings mode).map (Substituted.map Json.stringify) ∧
      ∀ path,
        renderText ⟨bindings, mode⟩ path template =
            (renderString ⟨bindings, mode⟩ path template).map (Substituted.map Json.stringify) ∧
          ∀ result, renderString ⟨bindings, mode⟩ path template = .ok result →
            result.value = .str result.value.stringify ∨
              ∃ padded : PaddedName, template.toList = padded.text ∧
                bindings.resolve? padded.name = some result.value := by
  have agree (path : List String) : renderText ⟨bindings, mode⟩ path template =
      (renderString ⟨bindings, mode⟩ path template).map (Substituted.map Json.stringify) := by
    rcases renderString_cases ⟨bindings, mode⟩ path template with
      ⟨name, value, -, -, native, text⟩ | text
    · rw [native, text]
      rfl
    · rw [text]
      cases renderText ⟨bindings, mode⟩ path template with
      | error unresolved => rfl
      | ok result => rfl
  refine ⟨agree [], fun path => ⟨agree path, ?_⟩⟩
  intro result rendered
  rcases renderString_cases ⟨bindings, mode⟩ path template with
    ⟨name, value, whole, found, native, -⟩ | text
  · right
    obtain ⟨padded, rfl, spelled⟩ := Template.wholeMarker?_eq_some_iff.mp whole
    rw [native] at rendered
    cases rendered
    exact ⟨padded, spelled, found⟩
  · left
    rw [text] at rendered
    cases ran : renderText ⟨bindings, mode⟩ path template with
    | error unresolved =>
        rw [ran] at rendered
        exact nomatch rendered
    | ok result =>
        rw [ran] at rendered
        cases rendered
        rfl

end ActionGateway
