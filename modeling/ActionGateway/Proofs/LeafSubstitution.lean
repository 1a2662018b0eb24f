import ActionGateway.Proofs.Leaves
import ActionGateway.Proofs.NativeValues
import ActionGateway.Proofs.SubstitutionModes

/-!
# Substitution leaf by leaf

A substitution renders each text of a value by itself. `Template.filled` is what a text becomes and
`Template.unresolvedMarkers` what is unresolved in it; neither depends on where the text is or on
what else there is. The result is the value with its texts filled, and the warnings are those of its
leaves, one leaf after the other, each with the path of its leaf.
-/

namespace ActionGateway

open Template (HasMarker)

/-! ## One template -/

namespace Template

namespace Segment

/-- The text in the place of a segment. -/
def rendered (bindings : Bindings) : Segment → List Char
  | literal text => text
  | placeholder name _ => bindings.textOf name
  | stray _ _ => []

/-- The marker that a segment leaves unresolved: a placeholder whose name stands for nothing, and
every stray marker. -/
def unresolved? (bindings : Bindings) : Segment → Option String
  | literal _ => none
  | placeholder name _ => if (bindings.resolve? name).isNone then some name else none
  | stray name _ => some name

end Segment

/-- The template with its placeholders written in and its stray markers taken out. -/
def filledText (bindings : Bindings) (template : String) : String :=
  String.ofList ((segments template).flatMap (Segment.rendered bindings))

/-- **What a template becomes** where it stands in a value: what it stands for, if it is exactly one
placeholder with a value, and else its text. -/
def filled (bindings : Bindings) (template : String) : Json :=
  ((Text.wholeMarker? placeholder template.toList).bind bindings.resolve?).getD
    (.str (filledText bindings template))

/-- **The unresolved markers of a template**, in order of appearance. -/
def unresolvedMarkers (bindings : Bindings) (template : String) : List String :=
  (segments template).filterMap (Segment.unresolved? bindings)

/-- A leaf that is one padded placeholder becomes the value bound to it. -/
theorem filled_padded {bindings : Bindings} {padded : PaddedName} {value : Json}
    (bound : bindings.resolve? padded.name = some value) :
    filled bindings (String.ofList padded.text) = value := by
  have whole : Text.wholeMarker? placeholder (String.ofList padded.text).toList =
      some padded.name := by
    rw [String.toList_ofList]
    exact wholeMarker?_eq_some_iff.mpr ⟨padded, rfl, rfl⟩
  rw [filled, whole, Option.bind_some, bound, Option.getD_some]

section Unmarked

variable {template : String} (unmarked : ¬ HasMarker template.toList)

include unmarked

/-- A template without markers is kept as it is. -/
theorem filledText_of_unmarked (bindings : Bindings) : filledText bindings template = template := by
  have kept : ∀ segment ∈ segments template,
      segment.rendered bindings = segment.written := by
    intro segment member
    obtain ⟨text, rfl⟩ := exists_literal_of_mem_segments unmarked member
    rfl
  rw [filledText, List.flatMap_congr kept, written_segments, String.ofList_toList]

/-- **A text without a marker stays as it is.** -/
theorem filled_of_unmarked (bindings : Bindings) : filled bindings template = .str template := by
  have partial_ : Text.wholeMarker? placeholder template.toList = none := by
    apply Option.eq_none_iff_forall_ne_some.mpr
    intro name whole
    obtain ⟨padded, -, spelled⟩ := wholeMarker?_eq_some_iff.mp whole
    rw [spelled] at unmarked
    exact unmarked ⟨padded.inner, List.infix_refl _⟩
  rw [filled, partial_, Option.bind_none, Option.getD_none, filledText_of_unmarked unmarked]

theorem unresolvedMarkers_of_unmarked (bindings : Bindings) :
    unresolvedMarkers bindings template = [] := by
  apply List.filterMap_eq_nil_iff.mpr
  intro segment member
  obtain ⟨text, rfl⟩ := exists_literal_of_mem_segments unmarked member
  rfl

end Unmarked

end Template

/-! ## Lenient passes over templates -/

namespace Substitution

open Template Template.Segment

variable (bindings : Bindings) (path : List String)

/-- What a lenient pass makes of segments. -/
def passed (segments : List Segment) : Substituted (List Char) :=
  ⟨segments.flatMap (rendered bindings),
    (segments.filterMap (unresolved? bindings)).map fun name => ⟨name, path⟩⟩

/-- Passing over segments one after the other joins texts and warnings. -/
theorem passed_append (segments others : List Segment) :
    passed bindings path (segments ++ others) =
      ⟨(passed bindings path segments).value ++ (passed bindings path others).value,
        (passed bindings path segments).warnings ++ (passed bindings path others).warnings⟩ := by
  simp only [passed, List.flatMap_append, List.filterMap_append, List.map_append]

/-- Lenient rendering passes over the stray markers of a literal in their order. -/
theorem lenient_renderStrays (pieces : List ((String × List Char) × List Char)) :
    renderStrays ⟨bindings, .lenient⟩ path (pieces.map fun piece => (piece.1.1, piece.2)) =
      .ok (passed bindings path (pieces.flatMap fun piece =>
        [.stray piece.1.1 piece.1.2, .literal piece.2])) := by
  induction pieces with
  | nil => rfl
  | cons piece rest ih =>
      have own : passed bindings path [.stray piece.1.1 piece.1.2, .literal piece.2] =
          ⟨piece.2, [⟨piece.1.1, path⟩]⟩ := by
        simp [passed, rendered, unresolved?]
      rw [List.map_cons, renderStrays, List.flatMap_cons, passed_append, own]
      exact Pass.bind_eq_ok rfl (Pass.map_eq_ok ih _)

/-- Over a literal it passes segment by segment. -/
theorem lenient_renderLiteral (literal : List Char) :
    renderLiteral ⟨bindings, .lenient⟩ path literal =
      .ok (passed bindings path (literalSegments literal)) := by
  unfold renderLiteral
  rw [Text.cut, Text.cutFrom_written]
  exact Pass.map_eq_ok (lenient_renderStrays bindings path _) _

/-- A placeholder is written in, or warned about and left empty. -/
theorem lenient_renderPlaceholder (name : String) (written : List Char) :
    renderPlaceholder ⟨bindings, .lenient⟩ path name =
      .ok (passed bindings path [.placeholder name written]) := by
  have own : passed bindings path [.placeholder name written] =
      ⟨bindings.textOf name, warningsFor bindings path [name]⟩ := by
    cases unbound : (bindings.resolve? name).isNone with
    | true => simp [passed, warningsFor, rendered, unresolved?, unbound]
    | false => simp [passed, warningsFor, rendered, unresolved?, unbound]
  rw [renderPlaceholder_lenient, own]

/-- Over the pieces of a template it passes in their order. -/
theorem lenient_renderPieces (pieces : List ((String × List Char) × List Char)) :
    renderPieces ⟨bindings, .lenient⟩ path (pieces.map fun piece => (piece.1.1, piece.2)) =
      .ok (passed bindings path (pieces.flatMap fun piece =>
        .placeholder piece.1.1 piece.1.2 :: literalSegments piece.2)) := by
  induction pieces with
  | nil => rfl
  | cons piece rest ih =>
      have split : passed bindings path
            (.placeholder piece.1.1 piece.1.2 :: literalSegments piece.2) = ⟨_, _⟩ :=
        passed_append bindings path [.placeholder piece.1.1 piece.1.2] _
      rw [List.map_cons, renderPieces, List.flatMap_cons, passed_append, split, List.append_assoc,
        List.append_assoc]
      apply Pass.bind_eq_ok (lenient_renderPlaceholder bindings path _ _)
      apply Pass.bind_eq_ok (lenient_renderLiteral bindings path _)
      exact Pass.map_eq_ok ih _

/-- Lenient rendering of a whole template: its filled text, and a warning for each unresolved marker
in order. -/
theorem lenient_renderText (template : String) :
    renderText ⟨bindings, .lenient⟩ path template =
      .ok ⟨filledText bindings template,
        (unresolvedMarkers bindings template).map fun name => ⟨name, path⟩⟩ := by
  have whole : passed bindings path (segments template) = ⟨_, _⟩ := passed_append bindings path _ _
  unfold renderText filledText unresolvedMarkers
  rw [passed, Substituted.mk.injEq] at whole
  rw [Text.cut, Text.cutFrom_written, whole.1, whole.2]
  apply Pass.bind_eq_ok (lenient_renderLiteral bindings path _)
  exact Pass.map_eq_ok (lenient_renderPieces bindings path _) _

/-- **A lenient pass over a template** fills it and warns of its unresolved markers. -/
theorem lenient_renderString (template : String) :
    renderString ⟨bindings, .lenient⟩ path template =
      .ok ⟨filled bindings template,
        (unresolvedMarkers bindings template).map fun name => ⟨name, path⟩⟩ := by
  have ran := lenient_renderText bindings path template
  cases found : (Text.wholeMarker? placeholder template.toList).bind bindings.resolve? with
  | some value =>
      obtain ⟨name, whole, bound⟩ := Option.bind_eq_some_iff.mp found
      have text := renderText_of_whole ⟨bindings, .lenient⟩ path whole
      rw [ran, renderPlaceholder, bound] at text
      have silent := congrArg Substituted.warnings (Except.ok.inj text)
      dsimp only at silent
      rw [renderString_of_bound ⟨bindings, .lenient⟩ path whole bound, filled, found,
        Option.getD_some, silent]
      rfl
  | none =>
      rw [renderString_of_unbound ⟨bindings, .lenient⟩ path, ran, filled, found, Option.getD_none]
      · rfl
      · exact Option.bind_eq_none_iff.mp found

/-! ## Lenient passes over values -/

/-- The warnings of leaves below a path. -/
def warningsBelow (path : List String) (leaves : List Json.Leaf) : List Unresolved :=
  leaves.flatMap fun leaf =>
    (unresolvedMarkers bindings leaf.text).map fun name => ⟨name, path ++ leaf.path⟩

/-- The warnings of leaves come one after the other as the leaves do. -/
theorem warningsBelow_append (path : List String) (leaves others : List Json.Leaf) :
    warningsBelow bindings path (leaves ++ others) =
      warningsBelow bindings path leaves ++ warningsBelow bindings path others :=
  List.flatMap_append

/-- Below a step the warnings are those of the longer path. -/
theorem warningsBelow_under (path : List String) (step : Json.Step) (leaves : List Json.Leaf) :
    warningsBelow bindings path (leaves.map (Json.Leaf.under step)) =
      warningsBelow bindings (path ++ [step.segment]) leaves := by
  simp only [warningsBelow, List.flatMap_map, Json.Leaf.under, Json.Leaf.path, List.map_cons,
    List.append_assoc, List.singleton_append]

mutual

/-- A lenient pass over a value fills its texts and warns of the markers of its leaves. -/
theorem lenient_json (path : List String) (value : Json) :
    json ⟨bindings, .lenient⟩ path value =
      .ok ⟨value.mapTexts (filled bindings), warningsBelow bindings path value.leaves⟩ := by
  cases value with
  | str template =>
      rw [json, lenient_renderString]
      simp only [Json.mapTexts, Json.leaves, warningsBelow, List.flatMap_singleton, Json.Leaf.path,
        List.map_nil, List.append_nil]
      rfl
  | arr items =>
      rw [json]
      exact Pass.map_eq_ok (lenient_jsonItems path 0 items) _
  | obj fields =>
      rw [json]
      exact Pass.map_eq_ok (lenient_jsonFields path fields) _
  | null | bool _ | num _ => rfl

/-- Lenient substitution in the items of an array, leaf by leaf. -/
theorem lenient_jsonItems (path : List String) (index : Nat) (items : List Json) :
    jsonItems ⟨bindings, .lenient⟩ path index items =
      .ok ⟨Json.mapTextsItems (filled bindings) items,
        warningsBelow bindings path (Json.itemLeaves index items)⟩ := by
  cases items with
  | nil => rfl
  | cons item rest =>
      rw [jsonItems, Json.itemLeaves, warningsBelow_append, warningsBelow_under]
      apply Pass.bind_eq_ok (lenient_json (path ++ [toString index]) item)
      exact Pass.map_eq_ok (lenient_jsonItems path (index + 1) rest) _

theorem lenient_jsonFields (path : List String) (fields : List (String × Json)) :
    jsonFields ⟨bindings, .lenient⟩ path fields =
      .ok ⟨Json.mapTextsFields (filled bindings) fields,
        warningsBelow bindings path (Json.fieldLeaves fields)⟩ := by
  cases fields with
  | nil => rfl
  | cons field rest =>
      rw [jsonFields, Json.fieldLeaves, warningsBelow_append, warningsBelow_under]
      apply Pass.bind_eq_ok (lenient_json (path ++ [field.1]) field.2)
      exact Pass.map_eq_ok (lenient_jsonFields path rest) _

end

end Substitution

/-! ## Substitution -/

namespace Unresolved

/-- A path from the root as text. -/
def rootedPath : List String → String
  | [] => "$"
  | path => "$." ++ ".".intercalate path

/-- The text of a warning is made of its name and its path. -/
theorem warning_mk (name : String) (path : List String) :
    (mk name path).warning = warningText name (rootedPath path) := by
  have same : (mk name path).pathText = rootedPath path := by
    cases path with
    | nil => exact String.intercalate_singleton
    | cons segment rest => exact String.intercalate_cons_cons
  rw [warning_eq, same]

end Unresolved

namespace Json

open Template (Segment filled segments unresolvedMarkers)

/-- **Substitution leaf by leaf**: the value with its texts filled, and the unresolved markers of
its leaves with their paths. -/
def leafwise (bindings : Bindings) (value : Json) : Substituted Json :=
  ⟨value.mapTexts (filled bindings), value.leaves.flatMap fun leaf =>
    (unresolvedMarkers bindings leaf.text).map fun name => ⟨name, leaf.path⟩⟩

/-- A substitution is made leaf by leaf, and a strict one ends at its first unresolved marker. -/
theorem substitute_eq_leafwise (value : Json) (bindings : Bindings) (mode : SubstitutionMode) :
    value.substitute bindings mode =
      match mode with
      | .lenient => .ok (value.leafwise bindings)
      | .strict => (value.leafwise bindings).tightened := by
  have lenient : Substitution.json ⟨bindings, .lenient⟩ [] value = .ok (value.leafwise bindings) :=
    Substitution.lenient_json bindings [] value
  cases mode with
  | lenient => exact lenient
  | strict =>
      obtain ⟨result, ran, tight, -⟩ := Substitution.agree_json bindings [] value
      cases lenient.symm.trans ran
      exact tight

/-- Substitution that succeeds is leafwise, in strict mode without a warning. -/
theorem eq_leafwise_of_substitute {value : Json} {bindings : Bindings} {mode : SubstitutionMode}
    {substituted : Substituted Json}
    (succeeded : value.substitute bindings mode = .ok substituted) :
    substituted = value.leafwise bindings ∧ (mode = .strict → substituted.warnings = []) := by
  rw [substitute_eq_leafwise] at succeeded
  cases mode with
  | lenient =>
      cases succeeded
      exact ⟨rfl, nofun⟩
  | strict =>
      obtain ⟨silent, rfl⟩ := (Substituted.tightened_eq_ok_iff _ _).mp succeeded
      exact ⟨rfl, fun _ => silent⟩

/-- What becomes of a text by itself. -/
theorem leafwise_str (bindings : Bindings) (text : String) :
    (Json.str text).leafwise bindings =
      ⟨filled bindings text, (unresolvedMarkers bindings text).map fun name => ⟨name, []⟩⟩ := by
  simp only [leafwise, mapTexts, leaves, List.flatMap_singleton, Leaf.path, List.map_nil]

/-- A substitution that succeeds would have succeeded on each of the texts alone. -/
theorem substitute_text_of_substitute {value : Json} {bindings : Bindings} {mode : SubstitutionMode}
    {substituted : Substituted Json} (succeeded : value.substitute bindings mode = .ok substituted)
    {text : String} (member : text ∈ value.texts) :
    (Json.str text).substitute bindings mode =
      .ok ⟨filled bindings text,
        (unresolvedMarkers bindings text).map fun name => ⟨name, []⟩⟩ := by
  obtain ⟨rfl, strict⟩ := eq_leafwise_of_substitute succeeded
  rw [substitute_eq_leafwise, leafwise_str]
  cases mode with
  | lenient => rfl
  | strict =>
      rw [← map_text_leaves] at member
      obtain ⟨leaf, held, rfl⟩ := List.mem_map.mp member
      have silent := List.flatMap_eq_nil_iff.mp (strict rfl) leaf held
      rw [List.map_eq_nil_iff.mp silent]
      rfl

/-- **Substitution is made leaf by leaf and touches nothing else.** The result is the value with
each text replaced by what that text is rendered as alone; everywhere else it has the same names, as
many items and the same scalars. A text that is exactly one placeholder becomes what that stands
for, and one without a marker stays as it is, whatever is bound. The warnings are those of the
leaves in their order, and each is for an unresolved marker and the path of its leaf. The leaves are
the texts of the value where they stand in it, and the markers of a text come in the order in which
it is written. -/
theorem substitute_leafwise {value : Json} {bindings : Bindings} {mode : SubstitutionMode}
    {substituted : Substituted Json}
    (succeeded : value.substitute bindings mode = .ok substituted) :
    substituted.value = value.mapTexts (filled bindings) ∧
    (∀ place node, value.at? place = some node →
      ∃ made, substituted.value.at? place = some made ∧ node.KeepsFrame (filled bindings) made) ∧
    (∀ text ∈ value.texts, (Json.str text).substitute bindings mode =
      .ok ⟨filled bindings text,
        (unresolvedMarkers bindings text).map fun name => ⟨name, []⟩⟩) ∧
    (∀ (padded : PaddedName) (bound : Json), bindings.resolve? padded.name = some bound →
      filled bindings (String.ofList padded.text) = bound) ∧
    (∀ (others : Bindings) (text : String), ¬ HasMarker text.toList →
      filled others text = .str text ∧ unresolvedMarkers others text = []) ∧
    substituted.warnings = (value.leaves.flatMap fun leaf =>
      (unresolvedMarkers bindings leaf.text).map fun name => ⟨name, leaf.path⟩) ∧
    (value.WellFormed → ∀ place text,
      ⟨place, text⟩ ∈ value.leaves ↔ value.at? place = some (.str text)) ∧
    (∀ text, (segments text).flatMap Segment.written = text.toList ∧
      ∀ segment ∈ segments text, segment.IsWritten) ∧
    ∀ name path, (Unresolved.mk name path).warning =
      Unresolved.warningText name (Unresolved.rootedPath path) := by
  have alone (text : String) (member : text ∈ value.texts) :=
    substitute_text_of_substitute succeeded member
  obtain ⟨rfl, -⟩ := eq_leafwise_of_substitute succeeded
  refine ⟨rfl, ?_, alone, fun _ _ => Template.filled_padded, ?_, rfl, mem_leaves_iff, ?_,
    Unresolved.warning_mk⟩
  · intro place node found
    exact ⟨_, at?_mapTexts _ found, keepsFrame_mapTexts _ node⟩
  · intro others text unmarked
    exact ⟨Template.filled_of_unmarked unmarked others,
      Template.unresolvedMarkers_of_unmarked unmarked others⟩
  · intro text
    exact ⟨Template.written_segments text, fun _ => Template.isWritten_of_mem_segments⟩

/-- A request with a placeholder that is bound, one that is not, and text with braces only. -/
def mixedRequest : Json :=
  .obj [("flags", .arr [.bool true, .str "\x7b\x7b all \x7d\x7d"]),
    ("note", .str "a \x7b\x7bgone\x7d\x7d b"), ("plain", .str "\x7d\x7d \x7b\x7b")]

/-- One name is bound, and to an array. -/
def mixedBindings : Bindings := .ofList [("all", .arr [.null])]

/-- A request with native values, a bound leaf, an unbound one and an unmarked one. -/
theorem substitute_leafwise_mixed :
    mixedRequest.substitute mixedBindings .lenient =
      .ok ⟨.obj [("flags", .arr [.bool true, .arr [.null]]), ("note", .str "a  b"),
        ("plain", .str "\x7d\x7d \x7b\x7b")], [⟨"gone", ["note"]⟩]⟩ ∧
    mixedRequest.mapTexts (filled mixedBindings) =
      .obj [("flags", .arr [.bool true, .arr [.null]]), ("note", .str "a  b"),
        ("plain", .str "\x7d\x7d \x7b\x7b")] ∧
    (mixedRequest.leaves.flatMap fun leaf =>
      (unresolvedMarkers mixedBindings leaf.text).map fun name => ⟨name, leaf.path⟩) =
        [Unresolved.mk "gone" ["note"]] := by
  have succeeded : mixedRequest.substitute mixedBindings .lenient =
      .ok ⟨.obj [("flags", .arr [.bool true, .arr [.null]]), ("note", .str "a  b"),
        ("plain", .str "\x7d\x7d \x7b\x7b")], [⟨"gone", ["note"]⟩]⟩ := rfl
  obtain ⟨value, -, -, -, -, warnings, -⟩ := substitute_leafwise succeeded
  exact ⟨succeeded, value.symm, warnings.symm⟩

end Json

end ActionGateway
