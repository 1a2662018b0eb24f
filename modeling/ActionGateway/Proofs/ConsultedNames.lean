import ActionGateway.Proofs.LeafSubstitution

/-!
# What a substitution consults

Of the bindings a substitution sees what the listed placeholders of its texts stand for, and nothing
else. A name is looked up as it is, or by its part before the first dot; so bindings under any other
name have no influence on the value, the warnings or the failure.
-/

namespace ActionGateway

namespace Bindings

variable {first second : Bindings}

/-- The names under which a name is looked up: itself, and its part before the first dot. -/
def keys (name : String) : List String :=
  name :: (segments name).head?.toList

/-- A name resolves alike where the keys that it is looked up under hold alike. -/
theorem resolve?_congr {name : String}
    (same : ∀ key ∈ keys name, first.get? key = second.get? key) :
    first.resolve? name = second.resolve? name := by
  have own := same name List.mem_cons_self
  unfold resolve?
  rw [own]
  cases second.get? name with
  | some value => rfl
  | none =>
      cases parts : segments name with
      | nil => rfl
      | cons head rest =>
          have outer : head ∈ keys name := by
            simp [keys, parts]
          dsimp only
          rw [same head outer]

/-- A name that resolves alike has one text. -/
theorem textOf_congr {name : String} (same : first.resolve? name = second.resolve? name) :
    first.textOf name = second.textOf name := by
  unfold textOf
  rw [same]

end Bindings

/-! ## One template -/

namespace Template

variable {first second : Bindings} {template : String}
  (same : ∀ name ∈ placeholders template, first.resolve? name = second.resolve? name)

/-- The name of a template that is one placeholder is listed. -/
theorem mem_placeholders_of_whole {name : String}
    (whole : Text.wholeMarker? placeholder template.toList = some name) :
    name ∈ placeholders template := by
  rw [placeholders, Text.cut_of_wholeMarker? rfl whole]
  exact List.mem_singleton_self name

include same

/-- A text is filled alike where the names that it lists resolve alike. -/
theorem filledText_congr : filledText first template = filledText second template := by
  have rendered : ∀ segment ∈ segments template,
      segment.rendered first = segment.rendered second := by
    intro segment member
    cases segment with
    | literal text => rfl
    | stray name written => rfl
    | placeholder name written =>
        exact Bindings.textOf_congr (same name (mem_placeholders_of_mem_segments member))
  rw [filledText, filledText, List.flatMap_congr rendered]

/-- A template is filled alike where the names that it lists resolve alike. -/
theorem filled_congr : filled first template = filled second template := by
  unfold filled
  rw [filledText_congr same]
  cases whole : Text.wholeMarker? placeholder template.toList with
  | none => rfl
  | some name =>
      rw [Option.bind_some, Option.bind_some, same name (mem_placeholders_of_whole whole)]

/-- The same markers stay unresolved where the listed names resolve alike. -/
theorem unresolvedMarkers_congr :
    unresolvedMarkers first template = unresolvedMarkers second template := by
  apply List.filterMap_congr
  intro segment member
  cases segment with
  | literal text => rfl
  | stray name written => rfl
  | placeholder name written =>
      rw [Segment.unresolved?, Segment.unresolved?,
        same name (mem_placeholders_of_mem_segments member)]

end Template

/-! ## Values -/

namespace Json

open Template (placeholders)

variable {first second : Bindings}

/-- **The names that a substitution consults**: those under which the listed placeholders of the
texts of the value are looked up. -/
def consulted (value : Json) : List String :=
  value.texts.flatMap fun text => (placeholders text).flatMap Bindings.keys

/-- A key under which a listed name is looked up is consulted. -/
theorem mem_consulted {value : Json} {text name key : String} (held : text ∈ value.texts)
    (listed : name ∈ placeholders text) (looked : key ∈ Bindings.keys name) :
    key ∈ value.consulted :=
  List.mem_flatMap.mpr ⟨text, held, List.mem_flatMap.mpr ⟨name, listed, looked⟩⟩

/-- Substitution leaf by leaf depends on the listed names only. -/
theorem leafwise_congr {value : Json} (same : ∀ text ∈ value.texts, ∀ name ∈ placeholders text,
    first.resolve? name = second.resolve? name) :
    value.leafwise first = value.leafwise second := by
  have filled : value.mapTexts (Template.filled first) =
      value.mapTexts (Template.filled second) := by
    apply mapTexts_congr
    intro text held
    exact Template.filled_congr (same text held)
  have warned (leaf : Leaf) (member : leaf ∈ value.leaves) :
      ((Template.unresolvedMarkers first leaf.text).map fun name => Unresolved.mk name leaf.path) =
        (Template.unresolvedMarkers second leaf.text).map fun name => ⟨name, leaf.path⟩ := by
    have held : leaf.text ∈ value.texts := map_text_leaves value ▸ List.mem_map_of_mem member
    rw [Template.unresolvedMarkers_congr (same leaf.text held)]
  rw [leafwise, leafwise, filled, List.flatMap_congr warned]

/-- Substitution depends on what the listed names resolve to and on nothing else. -/
theorem substitute_congr {value : Json} (mode : SubstitutionMode)
    (same : ∀ text ∈ value.texts, ∀ name ∈ placeholders text,
      first.resolve? name = second.resolve? name) :
    value.substitute first mode = value.substitute second mode := by
  rw [substitute_eq_leafwise, substitute_eq_leafwise, leafwise_congr same]

/-- **A substitution consults the listed names and no other.** Bindings under which each listed
placeholder stands for the same, or for nothing, give the same value and warnings, or the same
failure. So do bindings that are the same under the consulted names, and a binding under any other
name changes nothing. -/
theorem substitute_eq_of_consulted (value : Json) (mode : SubstitutionMode) :
    (∀ first second : Bindings,
      (∀ text ∈ value.texts, ∀ name ∈ placeholders text,
        first.resolve? name = second.resolve? name) →
      value.substitute first mode = value.substitute second mode) ∧
    (∀ first second : Bindings, (∀ key ∈ value.consulted, first.get? key = second.get? key) →
      value.substitute first mode = value.substitute second mode) ∧
    ∀ (bindings : Bindings) (key : String) (bound : Json), key ∉ value.consulted →
      value.substitute (bindings.insert key bound) mode = value.substitute bindings mode := by
  have agreeing (first second : Bindings)
      (same : ∀ key ∈ value.consulted, first.get? key = second.get? key) :
      value.substitute first mode = value.substitute second mode := by
    apply substitute_congr mode
    intro text held name listed
    apply Bindings.resolve?_congr
    intro key looked
    exact same key (mem_consulted held listed looked)
  refine ⟨fun _ _ => substitute_congr mode, agreeing, ?_⟩
  intro bindings key bound other
  apply agreeing
  intro looked member
  have different : looked ≠ key := fun equal => other (equal ▸ member)
  rw [OrderedMap.get?_insert, if_neg different]

/-- A template with a dotted name. The name may be bound as it is, or lead into the bound user. -/
def greeting : Json := .str "hello \x7b\x7b user.name \x7d\x7d"

def dottedName : Bindings := .ofList [("user.name", .str "guest")]

def nestedName : Bindings := .ofList [("other", .null), ("user", .obj [("name", .str "guest")])]

/-- A dotted name that is bound as such and one that leads into an object give the same. -/
theorem substitute_eq_of_consulted_nested :
    dottedName.get? "user.name" ≠ nestedName.get? "user.name" ∧
      greeting.substitute dottedName .strict = greeting.substitute nestedName .strict := by
  have same : ∀ text ∈ greeting.texts, ∀ name ∈ placeholders text,
      dottedName.resolve? name = nestedName.resolve? name := by
    intro text held name listed
    cases List.mem_singleton.mp held
    cases List.mem_singleton.mp listed
    rfl
  exact ⟨nofun, (substitute_eq_of_consulted greeting .strict).1 _ _ same⟩

end Json

end ActionGateway
