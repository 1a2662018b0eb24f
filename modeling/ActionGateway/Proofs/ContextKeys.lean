import ActionGateway.Resolution.Context
import Mathlib.Data.List.TakeWhile
import Mathlib.Tactic.ByContra

/-!
# Calls that ask for one key

A blank branch is as good as none, and blank space around a branch or an environment that is blank
altogether does not change what is asked for.
-/

namespace ActionGateway

namespace Text

theorem trim_eq_nil_iff (text : List Char) : trim text = [] ↔ text.all isBlank = true := by
  rw [trim, trimEnd, List.reverse_eq_nil_iff, List.dropWhile_eq_nil_iff, List.all_eq_true]
  constructor
  · intro blank c member
    by_contra visible
    have kept : c ∈ trimStart text := by
      obtain ⟨before, after, rfl⟩ := List.append_of_mem member
      unfold trimStart
      rw [List.dropWhile_append]
      split
      · rw [List.dropWhile_cons_of_neg visible]
        exact List.mem_cons_self
      · exact List.mem_append_right _ List.mem_cons_self
    exact visible (blank c (List.mem_reverse.mpr kept))
  · intro blank c member
    exact blank c ((List.dropWhile_suffix _).subset (List.mem_reverse.mp member))

/-- What is left of a text without blank space around it is empty only if the text is blank. -/
theorem trimmed_eq_empty_iff (text : String) : trimmed text = "" ↔ isBlankText text = true := by
  rw [isBlankText, ← trim_eq_nil_iff, trimmed, ← String.toList_inj, String.toList_ofList]
  rfl

end Text

namespace ContextKey

variable (defaultEnvironment id environmentId : String) (viewMode : ViewMode)

/-- The keys of two calls that differ in their branches differ in nothing else. -/
theorem ofCall_eq_withBranch (branch other : Option String) :
    ofCall defaultEnvironment id other environmentId viewMode =
      { ofCall defaultEnvironment id branch environmentId viewMode with
        branch := (ofCall defaultEnvironment id other environmentId viewMode).branch } := rfl

/-- A call with a blank branch asks for no branch. -/
theorem ofCall_branch_of_blank {branch : Option String}
    (blank : branch.all Text.isBlankText = true) :
    (ofCall defaultEnvironment id branch environmentId viewMode).branch = none := by
  cases branch with
  | none => rfl
  | some branch =>
      have nothing : Text.trimmed branch = "" := (Text.trimmed_eq_empty_iff branch).mpr blank
      simp [ofCall, nothing]

/-- A call with any other branch asks for it without the blank space around it. -/
theorem ofCall_branch_of_visible {branch : String} (visible : Text.isBlankText branch = false) :
    (ofCall defaultEnvironment id (some branch) environmentId viewMode).branch =
      some (Text.trimmed branch) := by
  have something : Text.trimmed branch ≠ "" := fun nothing =>
    Bool.false_ne_true (visible.symm.trans ((Text.trimmed_eq_empty_iff branch).mp nothing))
  simp [ofCall, something]

/-- Leaving out a branch that is blank asks for the same key. -/
theorem ofCall_nonBlank (branch : Option String) :
    ofCall defaultEnvironment id (branch.bind Text.nonBlank) environmentId viewMode =
      ofCall defaultEnvironment id branch environmentId viewMode := by
  cases branch with
  | none => rfl
  | some branch =>
      by_cases blank : Text.isBlankText branch = true
      · have nothing : Text.trimmed branch = "" := (Text.trimmed_eq_empty_iff branch).mpr blank
        simp only [Option.bind_some, Text.nonBlank, blank, ↓reduceIte, ofCall, Option.map_none,
          Option.map_some, nothing]
        rfl
      · rw [Option.bind_some, Text.nonBlank, if_neg blank]

end ContextKey

end ActionGateway
