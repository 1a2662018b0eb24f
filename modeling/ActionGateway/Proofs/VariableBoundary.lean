import ActionGateway.Manifest
import ActionGateway.Proofs.VariableReferences
import ActionGateway.Settings

/-!
# The boundary of allowed variables

A file can refer to any variable by name, but of a variable whose name has none of the allowed
prefixes it learns nothing: not what it is set to, and not whether it is set. Two environments that
agree on the allowed names are the same to every file. Those that differ on an allowed name are told
apart by a text that refers to it, unless the name cannot be spelled in a reference.
-/

namespace ActionGateway

namespace Variables

/-- The name begins with one of the prefixes. -/
def Covered (prefixes : List String) (name : String) : Prop :=
  ∃ allowed ∈ prefixes, allowed.toList <+: name.toList

instance (prefixes : List String) (name : String) : Decidable (Covered prefixes name) :=
  inferInstanceAs (Decidable (∃ allowed ∈ prefixes, allowed.toList <+: name.toList))

variable {prefixes : List String} {first second : String → Option String}

/-- Where prefixes are given, the names allowed are those that they cover. -/
theorem allows_iff_covered (nonempty : prefixes ≠ []) (lookup : String → Option String)
    (name : String) :
    (⟨prefixes, lookup⟩ : Variables).allows name = true ↔ Covered prefixes name := by
  have restricted : prefixes.isEmpty = false := by simpa using nonempty
  simp only [allows, restricted, Bool.false_or, List.any_eq_true, List.isPrefixOf_iff_prefix,
    Covered]

/-- A name that no prefix covers is refused unread. -/
theorem textOf_of_not_covered (nonempty : prefixes ≠ []) {reference : VariableReference}
    (outside : ¬ Covered prefixes reference.name) :
    textOf ⟨prefixes, first⟩ reference = .error (.notAllowed reference.name prefixes) := by
  have refused : (⟨prefixes, first⟩ : Variables).allows reference.name = false := by
    rw [Bool.eq_false_iff, Ne, allows_iff_covered nonempty first]
    exact outside
  simp only [textOf, checkName, refused, bind, Except.bind, Bool.false_eq_true, ↓reduceIte]

/-- A covered name stands for its variable, else for its fallback. -/
theorem textOf_of_covered {reference : VariableReference}
    (inside : Covered prefixes reference.name) :
    textOf ⟨prefixes, first⟩ reference =
      ((first reference.name).or reference.fallback).elim
        (.error (.notFound reference.name)) .ok := by
  have nonempty : prefixes ≠ [] := by
    obtain ⟨allowed, member, -⟩ := inside
    exact List.ne_nil_of_mem member
  have granted := (allows_iff_covered nonempty first _).mpr inside
  simp only [textOf, checkName, granted, bind, Except.bind, ↓reduceIte]
  cases first reference.name with
  | some text => rfl
  | none => cases reference.fallback <;> rfl

/-- Lookups that agree on a name, if it is covered, give a reference the same text. -/
theorem textOf_congr (nonempty : prefixes ≠ []) {reference : VariableReference}
    (agree : Covered prefixes reference.name → first reference.name = second reference.name) :
    textOf ⟨prefixes, first⟩ reference = textOf ⟨prefixes, second⟩ reference := by
  by_cases inside : Covered prefixes reference.name
  · rw [textOf_of_covered inside, textOf_of_covered inside, agree inside]
  · rw [textOf_of_not_covered nonempty inside, textOf_of_not_covered nonempty inside]

/-- A text that refers to a name after one literal character. -/
def spelling (name : String) : String :=
  "x$\x7b" ++ name ++ "\x7d"

/-- A text made to spell a name resolves by the text of that name. -/
theorem resolve_spelling (known : Variables) {name : String}
    (spelled : VariableReference.CanName name) :
    known.resolve (.str (spelling name)) =
      (known.textOf ⟨name, none⟩).map fun text => .str ("x" ++ text) := by
  have recognised := VariableReference.recognise_spelled spelled.nonempty spelled.chars []
  have chars : (spelling name).toList =
      'x' :: '$' :: (('\x7b' :: name.toList ++ ['\x7d']) ++ []) := by
    rw [spelling, String.toList_append, String.toList_append, List.append_nil]
    rfl
  have pieces : Text.cut VariableReference.recognise (spelling name).toList =
      ⟨['x'], [(⟨name, none⟩, [])]⟩ := by
    rw [chars, Text.cut, Text.cutFrom_literal [] (VariableReference.recognise_of_ne _ (by decide)),
      Text.cutFrom_marker ['x'] recognised, String.ofList_toList]
    rfl
  have partly : Text.wholeMarker? VariableReference.recognise (spelling name).toList = none := by
    rw [chars, Text.wholeMarker?, VariableReference.recognise_of_ne _ (by decide)]
  rw [resolve, resolveText, partly]
  simp only [pieces, renderPieces]
  cases known.textOf ⟨name, none⟩ with
  | error reason => rfl
  | ok text =>
      have joined : String.ofList (['x'] ++ text.toList) = "x" ++ text := by
        rw [String.ofList_append, String.ofList_toList]
      simp only [bind, Except.bind, Except.map, List.append_nil, joined]

/-- What a name stands for can be read off the text that refers to it. -/
theorem eq_of_spelling {name : String} {own other : Option String}
    (alike : ((own.or none).elim (.error (.notFound name)) .ok : Except VariableError String).map
        (fun text => Json.str ("x" ++ text)) =
      ((other.or none).elim (.error (.notFound name)) .ok : Except VariableError String).map
        fun text => Json.str ("x" ++ text)) :
    own = other := by
  cases own with
  | none =>
      cases other with
      | none => rfl
      | some text => exact nomatch alike
  | some text =>
      cases other with
      | none => exact nomatch alike
      | some otherText =>
          have values := Json.str.inj (Except.ok.inj alike)
          have chars := congrArg String.toList values
          rw [String.toList_append, String.toList_append] at chars
          rw [String.toList_inj.mp (List.append_cancel_left chars)]

/-- **Exactly the allowed names can be told apart**, as far as references can spell them. -/
theorem resolve_eq_iff_agree (nonempty : prefixes ≠ []) :
    (∀ value, resolve ⟨prefixes, first⟩ value = resolve ⟨prefixes, second⟩ value) ↔
      ∀ name, Covered prefixes name → VariableReference.CanName name →
        first name = second name := by
  constructor
  · intro same name inside spelled
    have alike := same (.str (spelling name))
    rw [resolve_spelling _ spelled, resolve_spelling _ spelled,
      textOf_of_covered inside, textOf_of_covered inside] at alike
    exact eq_of_spelling alike
  · intro agree value
    apply resolve_congr
    intro text _
    apply resolveText_congr
    intro reference member
    obtain ⟨start, size, recognised⟩ := Text.recognised_of_mem_cut member
    exact textOf_congr nonempty fun inside =>
      agree _ inside (VariableReference.canName_of_recognise recognised)

/-- Variables that resolve alike decode alike. -/
theorem decode_congr {known other : Variables}
    (same : ∀ value, known.resolve value = other.resolve value) {α : Type}
    (decoder : Json.Decoder α) : known.decode decoder = other.decode decoder := by
  funext document
  rw [decode, decode, same]

/-- **Variables that are not allowed do not show.** -/
theorem loading_sees_only_covered (nonempty : prefixes ≠ [])
    (agree : ∀ name, Covered prefixes name → first name = second name) :
    (∀ value, resolve ⟨prefixes, first⟩ value = resolve ⟨prefixes, second⟩ value) ∧
      ∀ content format,
        Settings.parse ⟨prefixes, first⟩ content format =
          Settings.parse ⟨prefixes, second⟩ content format ∧
        Manifest.parse ⟨prefixes, first⟩ content format =
          Manifest.parse ⟨prefixes, second⟩ content format := by
  have same := (resolve_eq_iff_agree nonempty).mpr fun name inside _ => agree name inside
  refine ⟨same, fun content format => ⟨?_, ?_⟩⟩
  · rw [Settings.parse, Settings.parse, decode_congr same]
  · rw [Manifest.parse, Manifest.parse, decode_congr same]

/-- A port that files may refer to. -/
def onlyPort (name : String) : Option String :=
  if name = "APP_PORT" then some "80" else none

/-- The port, and a variable of another kind. -/
def portAtHome (name : String) : Option String :=
  if name = "HOME" then some "/root" else onlyPort name

/-- Two environments that agree on the one covered port load alike. -/
theorem loading_sees_only_covered_port :
    ["APP_"] ≠ [] ∧ portAtHome "HOME" ≠ onlyPort "HOME" ∧
      (∀ name, Covered ["APP_"] name → portAtHome name = onlyPort name) ∧
      (∀ value, resolve ⟨["APP_"], portAtHome⟩ value = resolve ⟨["APP_"], onlyPort⟩ value) ∧
      ∀ content format,
        Settings.parse ⟨["APP_"], portAtHome⟩ content format =
          Settings.parse ⟨["APP_"], onlyPort⟩ content format ∧
        Manifest.parse ⟨["APP_"], portAtHome⟩ content format =
          Manifest.parse ⟨["APP_"], onlyPort⟩ content format := by
  have outside : ¬ Covered ["APP_"] "HOME" := by decide
  have agree : ∀ name, Covered ["APP_"] name → portAtHome name = onlyPort name := by
    intro name inside
    have other : name ≠ "HOME" := fun same => outside (same ▸ inside)
    rw [portAtHome, if_neg other]
  have nonempty : ["APP_"] ≠ [] := List.cons_ne_nil _ _
  exact ⟨nonempty, by decide, agree, loading_sees_only_covered nonempty agree⟩

end Variables

end ActionGateway
