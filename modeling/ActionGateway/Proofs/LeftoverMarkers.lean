import ActionGateway.Proofs.JsonPaths
import ActionGateway.Proofs.MarkerNames
import ActionGateway.Proofs.PlainValues
import ActionGateway.Substitution
import Mathlib.Data.Option.Defs

/-!
# Markers after strict substitution

A strict substitution refuses a template with a marker in one of its literal pieces. It looks at
each piece alone, so braces of different pieces can make up a marker once the placeholders between
them are gone. With values that have no braces that is the only way in which one is left: a text has
a marker if and only if its template has one after its placeholders were blanked out.
-/

namespace ActionGateway

namespace Pass

variable {α β : Type}

/-- The pass ends with the value. -/
def Gives (pass : Pass α) (value : α) : Prop :=
  ∃ warnings, pass = .ok ⟨value, warnings⟩

/-- A pure pass gives its value. -/
theorem gives_pure_iff {value other : α} : (pure value : Pass α).Gives other ↔ other = value := by
  constructor
  · rintro ⟨warnings, same⟩
    cases same
    rfl
  · rintro rfl
    exact ⟨[], rfl⟩

/-- A sequence gives what its second pass makes of what the first one gives. -/
theorem gives_bind_iff {first : Pass α} {next : α → Pass β} {value : β} :
    (first >>= next).Gives value ↔ ∃ middle, first.Gives middle ∧ (next middle).Gives value := by
  change (∃ warnings, first.andThen next = _) ↔ _
  unfold andThen
  constructor
  · rintro ⟨warnings, ran⟩
    cases first with
    | error unresolved => exact nomatch ran
    | ok before =>
        obtain ⟨middle, earlier⟩ := before
        dsimp only at ran
        cases after : next middle with
        | error unresolved =>
            rw [after] at ran
            exact nomatch ran
        | ok result =>
            rw [after] at ran
            cases ran
            exact ⟨middle, ⟨earlier, rfl⟩, result.warnings, after⟩
  · rintro ⟨middle, ⟨earlier, rfl⟩, later, ran⟩
    refine ⟨earlier ++ later, ?_⟩
    dsimp only
    rw [ran]

end Pass

/-! ## Templates -/

/-- The literal text of pieces, with texts in place of the markers. -/
def Text.Pieces.fill {α : Type} (pieces : Pieces α) (text : α → List Char) : List Char :=
  pieces.head ++ pieces.tail.flatMap fun piece => text piece.1 ++ piece.2

/-- The text that is put in place of a placeholder. -/
def Bindings.textOf (bindings : Bindings) (name : String) : List Char :=
  match bindings.resolve? name with
  | some value => value.stringify.toList
  | none => []

/-- The text of a bound name is plain where the bindings are. -/
theorem Bindings.ArePlain.textOf {bindings : Bindings} (plain : bindings.ArePlain)
    (name : String) : Template.IsPlain (bindings.textOf name) := by
  unfold Bindings.textOf
  cases found : bindings.resolve? name with
  | none => exact fun _ member => nomatch member
  | some value => exact (plain.resolve? found).stringify

namespace Template

/-- The literal pieces of a template. -/
def literals (template : String) : List (List Char) :=
  let pieces := Text.cut placeholder template.toList
  pieces.head :: pieces.tail.map Prod.snd

/-- **The template with its placeholders blanked out**: with a blank in place of each one, and with
nothing in place of one whose value is written as nothing. -/
def blanked (bindings : Bindings) (template : String) : List Char :=
  (Text.cut placeholder template.toList).fill fun name =>
    if bindings.textOf name = [] then [] else [' ']

/-- Blanking out placeholders makes and breaks no marker. -/
theorem hasMarker_fill_iff {bindings : Bindings} (plain : bindings.ArePlain) (template : String) :
    HasMarker ((Text.cut placeholder template.toList).fill bindings.textOf) ↔
      HasMarker (blanked bindings template) := by
  have reads (name : String) (scan : Scan) :
      (bindings.textOf name).foldl Scan.next scan =
        (if bindings.textOf name = [] then [] else [' ']).foldl Scan.next scan := by
    by_cases nothing : bindings.textOf name = []
    · rw [if_pos nothing, nothing]
    · rw [if_neg nothing, Scan.foldl_plain scan (plain.textOf name) nothing]
      rfl
  unfold blanked Text.Pieces.fill
  rw [hasMarker_iff_foldl, hasMarker_iff_foldl, List.foldl_append, List.foldl_append]
  generalize (Text.cut placeholder template.toList).head.foldl Scan.next .outside = scan
  generalize (Text.cut placeholder template.toList).tail = pieces
  induction pieces generalizing scan with
  | nil => exact Iff.rfl
  | cons piece rest ih =>
      simp only [List.flatMap_cons, List.foldl_append, reads]
      exact ih _

/-- No closing is found just when there is none. -/
theorem beforeClosing?_eq_none_iff (text : List Char) :
    beforeClosing? text = none ↔ ¬ HasClosing text := by
  induction text with
  | nil => exact iff_of_true rfl not_hasClosing_nil
  | cons c rest ih =>
      rw [beforeClosing?, hasClosing_cons_iff]
      by_cases closes : c = '\x7d' ∧ rest.head? = some '\x7d'
      · rw [if_pos closes]
        exact iff_of_false (Option.some_ne_none _) fun none_ => none_ (.inl closes)
      · rw [if_neg closes, Option.map_eq_none_iff, ih]
        simp only [closes, false_or]

/-- What the recogniser of stray markers says at the start of a text. -/
theorem strayMarker_cases (text : List Char) :
    (∃ later, text = '\x7b' :: '\x7b' :: later ∧
      ((∃ name size, strayMarker text = .marker name size) ∨
        ¬ HasClosing later ∧ strayMarker text = .exhausted)) ∨
      (¬ ∃ later, text = '\x7b' :: '\x7b' :: later) ∧ strayMarker text = .literal := by
  unfold strayMarker
  split
  · rename_i later
    refine .inl ⟨later, rfl, ?_⟩
    cases closes : beforeClosing? later with
    | some inner => exact .inl ⟨_, _, rfl⟩
    | none => exact .inr ⟨(beforeClosing?_eq_none_iff later).mp closes, rfl⟩
  · rename_i other
    refine .inr ⟨?_, rfl⟩
    rintro ⟨later, split⟩
    exact other later split

/-- Text in which no stray marker is found has none, and is left as it is. -/
theorem not_hasMarker_of_cutFrom (text literal : List Char)
    (uncut : (Text.cutFrom strayMarker literal 0 text).tail = []) :
    ¬ HasMarker text ∧
      (Text.cutFrom strayMarker literal 0 text).head = literal.reverse ++ text := by
  induction text generalizing literal with
  | nil => exact ⟨not_hasMarker_nil, (List.append_nil _).symm⟩
  | cons c rest ih =>
      rw [Text.cutFrom] at uncut ⊢
      rcases strayMarker_cases (c :: rest) with ⟨later, split, found⟩ | ⟨unopened, found⟩
      · obtain ⟨rfl, rfl⟩ := List.cons.inj split
        rcases found with ⟨name, size, found⟩ | ⟨unclosed, found⟩
        · rw [found] at uncut
          exact (List.cons_ne_nil _ _ uncut).elim
        · rw [found]
          refine ⟨fun marker => unclosed ?_, rfl⟩
          have closing := marker.hasClosing
          simp only [hasClosing_cons_iff, Char.reduceEq, false_and, false_or] at closing
          exact closing
      · rw [found] at uncut ⊢
        obtain ⟨unmarked, whole⟩ := ih (c :: literal) uncut
        constructor
        · rw [hasMarker_cons_iff]
          rintro (⟨rfl, later, rfl, -⟩ | farther)
          · exact unopened ⟨later, rfl⟩
          · exact unmarked farther
        · rw [whole, List.reverse_cons, List.append_assoc]
          rfl

end Template

open Template (HasMarker)

/-! ## Strict passes over strings -/

namespace Substitution

variable {bindings : Bindings} {path : List String}

/-- A strict pass does not get past a marker that does not resolve. -/
theorem not_gives_unresolved {α : Type} {name : String} {next : Unit → Pass α} {value : α} :
    ¬ (unresolved ⟨bindings, .strict⟩ path name >>= next).Gives value := by
  rw [Pass.gives_bind_iff]
  rintro ⟨_, ⟨warnings, same⟩, -⟩
  exact nomatch same

/-- A literal piece is left as it is, and only if it has no marker. -/
theorem of_gives_renderLiteral {literal text : List Char}
    (gives : (renderLiteral ⟨bindings, .strict⟩ path literal).Gives text) :
    text = literal ∧ ¬ HasMarker literal := by
  unfold renderLiteral at gives
  obtain ⟨after, strays, gives⟩ := Pass.gives_bind_iff.mp gives
  have uncut : (Text.cut Template.strayMarker literal).tail = [] := by
    cases pieces : (Text.cut Template.strayMarker literal).tail with
    | nil => rfl
    | cons piece rest =>
        rw [pieces, renderStrays] at strays
        exact (not_gives_unresolved strays).elim
  rw [uncut, renderStrays, Pass.gives_pure_iff] at strays
  rw [Pass.gives_pure_iff, strays, List.append_nil] at gives
  obtain ⟨unmarked, whole⟩ := Template.not_hasMarker_of_cutFrom literal [] uncut
  exact ⟨gives.trans whole, unmarked⟩

/-- A strict placeholder that renders gives the text bound to its name. -/
theorem of_gives_renderPlaceholder {name : String} {text : List Char}
    (gives : (renderPlaceholder ⟨bindings, .strict⟩ path name).Gives text) :
    text = bindings.textOf name := by
  unfold renderPlaceholder at gives
  unfold Bindings.textOf
  cases found : bindings.resolve? name with
  | some value =>
      simp only [found, Pass.gives_pure_iff] at gives
      exact gives
  | none =>
      simp only [found] at gives
      exact (not_gives_unresolved gives).elim

/-- Strict pieces that render give the bound texts between literals without markers. -/
theorem of_gives_renderPieces {pieces : List (String × List Char)} {text : List Char}
    (gives : (renderPieces ⟨bindings, .strict⟩ path pieces).Gives text) :
    text = (pieces.flatMap fun piece => bindings.textOf piece.1 ++ piece.2) ∧
      ∀ piece ∈ pieces, ¬ HasMarker piece.2 := by
  induction pieces generalizing text with
  | nil => exact ⟨Pass.gives_pure_iff.mp gives, fun _ member => nomatch member⟩
  | cons piece rest ih =>
      obtain ⟨name, literal⟩ := piece
      rw [renderPieces] at gives
      obtain ⟨value, put, gives⟩ := Pass.gives_bind_iff.mp gives
      obtain ⟨own, left, gives⟩ := Pass.gives_bind_iff.mp gives
      obtain ⟨after, rendered, gives⟩ := Pass.gives_bind_iff.mp gives
      obtain ⟨rfl, unmarked⟩ := of_gives_renderLiteral left
      obtain ⟨rfl, others⟩ := ih rendered
      rw [of_gives_renderPlaceholder put, Pass.gives_pure_iff] at gives
      refine ⟨?_, List.forall_mem_cons.mpr ⟨unmarked, others⟩⟩
      rw [gives, List.flatMap_cons, List.append_assoc]

/-- A strict template that renders is filled with the bound texts, its literals free of markers. -/
theorem of_gives_renderText {template text : String}
    (gives : (renderText ⟨bindings, .strict⟩ path template).Gives text) :
    text.toList = (Text.cut Template.placeholder template.toList).fill bindings.textOf ∧
      ∀ literal ∈ Template.literals template, ¬ HasMarker literal := by
  unfold renderText at gives
  obtain ⟨head, first, gives⟩ := Pass.gives_bind_iff.mp gives
  obtain ⟨after, rendered, gives⟩ := Pass.gives_bind_iff.mp gives
  obtain ⟨rfl, unmarked⟩ := of_gives_renderLiteral first
  obtain ⟨rfl, others⟩ := of_gives_renderPieces rendered
  rw [Pass.gives_pure_iff] at gives
  refine ⟨?_, List.forall_mem_cons.mpr ⟨unmarked, ?_⟩⟩
  · rw [gives, String.toList_ofList]
    rfl
  · intro literal member
    obtain ⟨piece, held, rfl⟩ := List.mem_map.mp member
    exact others piece held

end Substitution

/-! ## Strict passes over values -/

namespace Substitution

variable {bindings : Bindings}

/-- A strict pass makes the second value of the first one, at some path. -/
def Renders (bindings : Bindings) (value result : Json) : Prop :=
  ∃ path, (json ⟨bindings, .strict⟩ path value).Gives result

/-- Items that substitute are rendered place by place. -/
theorem renders_items {path : List String} {index : Nat} {items results : List Json}
    (gives : (jsonItems ⟨bindings, .strict⟩ path index items).Gives results) (place : Nat) :
    Option.Rel (Renders bindings) items[place]? results[place]? := by
  induction items generalizing index results place with
  | nil =>
      rw [Pass.gives_pure_iff.mp gives]
      exact .none
  | cons item rest ih =>
      rw [jsonItems] at gives
      obtain ⟨own, first, gives⟩ := Pass.gives_bind_iff.mp gives
      obtain ⟨others, after, gives⟩ := Pass.gives_bind_iff.mp gives
      rw [Pass.gives_pure_iff.mp gives]
      cases place with
      | zero => exact .some ⟨_, first⟩
      | succ place => exact ih after place

/-- Fields that substitute are rendered name by name. -/
theorem renders_fields {path : List String} {fields results : List (String × Json)}
    (gives : (jsonFields ⟨bindings, .strict⟩ path fields).Gives results) (name : String) :
    Option.Rel (Renders bindings) (fields.lookup name) (results.lookup name) := by
  induction fields generalizing results with
  | nil =>
      rw [Pass.gives_pure_iff.mp gives]
      exact .none
  | cons field rest ih =>
      rw [jsonFields] at gives
      obtain ⟨own, first, gives⟩ := Pass.gives_bind_iff.mp gives
      obtain ⟨others, after, gives⟩ := Pass.gives_bind_iff.mp gives
      rw [Pass.gives_pure_iff.mp gives, OrderedMap.lookup_cons_eq_ite,
        OrderedMap.lookup_cons_eq_ite]
      by_cases same : name = field.1
      · rw [if_pos same, if_pos same]
        exact .some ⟨_, first⟩
      · rw [if_neg same, if_neg same]
        exact ih after

/-- **What a strict pass does with a value**, one level deep. -/
inductive RendersAs (bindings : Bindings) : Json → Json → Prop where
  /-- A text that is one placeholder becomes what that stands for. -/
  | value {template name : String} {result : Json} :
      Text.wholeMarker? Template.placeholder template.toList = some name →
      bindings.resolve? name = some result →
      RendersAs bindings (.str template) result
  | text {template text : String} {path : List String} :
      (renderText ⟨bindings, .strict⟩ path template).Gives text →
      RendersAs bindings (.str template) (.str text)
  | items {items results : List Json} :
      (∀ index : Nat, Option.Rel (Renders bindings) items[index]? results[index]?) →
      RendersAs bindings (.arr items) (.arr results)
  | fields {fields results : List (String × Json)} :
      (∀ name, Option.Rel (Renders bindings) (fields.lookup name) (results.lookup name)) →
      RendersAs bindings (.obj fields) (.obj results)
  | null : RendersAs bindings .null .null
  | bool (value : Bool) : RendersAs bindings (.bool value) (.bool value)
  | num (value : Json.Number) : RendersAs bindings (.num value) (.num value)

/-- A leaf that substitutes is rendered as its template says. -/
theorem rendersAs_of_renderString {path : List String} {template : String} {result : Json}
    (gives : (renderString ⟨bindings, .strict⟩ path template).Gives result) :
    RendersAs bindings (.str template) result := by
  unfold renderString at gives
  cases whole : Text.wholeMarker? Template.placeholder template.toList with
  | none =>
      simp only [whole] at gives
      obtain ⟨text, rendered, gives⟩ := Pass.gives_bind_iff.mp gives
      rw [Pass.gives_pure_iff.mp gives]
      exact .text rendered
  | some name =>
      simp only [whole] at gives
      cases found : bindings.resolve? name with
      | some value =>
          simp only [found, Pass.gives_pure_iff] at gives
          rw [gives]
          exact .value whole found
      | none =>
          simp only [found] at gives
          exact (not_gives_unresolved gives).elim

/-- What stands at a place is rendered by the shape of the value there. -/
theorem Renders.cases {value result : Json} (renders : Renders bindings value result) :
    RendersAs bindings value result := by
  obtain ⟨path, gives⟩ := renders
  cases value with
  | str template => exact rendersAs_of_renderString gives
  | arr items =>
      rw [json] at gives
      obtain ⟨results, given, gives⟩ := Pass.gives_bind_iff.mp gives
      rw [Pass.gives_pure_iff.mp gives]
      exact .items (renders_items given)
  | obj fields =>
      rw [json] at gives
      obtain ⟨results, given, gives⟩ := Pass.gives_bind_iff.mp gives
      rw [Pass.gives_pure_iff.mp gives]
      exact .fields (renders_fields given)
  | null =>
      rw [Pass.gives_pure_iff.mp gives]
      exact .null
  | bool value =>
      rw [Pass.gives_pure_iff.mp gives]
      exact .bool value
  | num value =>
      rw [Pass.gives_pure_iff.mp gives]
      exact .num value

/-- **One step down.** What a step leads to in the result was made of what it leads to in the
value. -/
theorem renders_child {value result : Json} (plain : bindings.ArePlain)
    (renders : Renders bindings value result) (step : Json.Step) :
    Option.Rel (Renders bindings) (value.child? step) (result.child? step) := by
  have nowhere {value result : Json} (scalar : value.isScalar = true)
      (scalarResult : result.isScalar = true) :
      Option.Rel (Renders bindings) (value.child? step) (result.child? step) := by
    rw [Json.child?_of_isScalar scalar, Json.child?_of_isScalar scalarResult]
    exact .none
  cases renders.cases with
  | value whole found => exact nowhere rfl (plain.resolve? found).isScalar
  | text rendered => exact nowhere rfl rfl
  | items related =>
      cases step with
      | item index => exact related index
      | field name => exact .none
  | fields related =>
      cases step with
      | item index => exact .none
      | field name => exact related name
  | null | bool | num => exact nowhere rfl rfl

/-- **At every place** the result was made of what the value has there. -/
theorem renders_at {value result : Json} (plain : bindings.ArePlain)
    (renders : Renders bindings value result) (place : List Json.Step) :
    Option.Rel (Renders bindings) (value.at? place) (result.at? place) := by
  induction place generalizing value result with
  | nil => exact .some renders
  | cons step rest ih =>
      have below := renders_child plain renders step
      rw [Json.at?, Json.at?]
      generalize value.child? step = child at below ⊢
      generalize result.child? step = made at below ⊢
      cases below with
      | none => exact .none
      | some made => exact ih made

/-- Only a text becomes a text. -/
theorem exists_template_of_renders {value : Json} {text : String}
    (renders : Renders bindings value (.str text)) : ∃ template, value = .str template := by
  cases renders.cases with
  | value | text => exact ⟨_, rfl⟩

/-- What becomes of one template: its literal pieces have no markers, and a marker is left if one
is there after the placeholders were blanked out. -/
theorem leaves_marker_iff {template : String} {result : Json} (plain : bindings.ArePlain)
    (renders : Renders bindings (.str template) result) :
    (∀ literal ∈ Template.literals template, ¬ HasMarker literal) ∧
      ((∃ text, result = .str text ∧ HasMarker text.toList) ↔
        HasMarker (Template.blanked bindings template)) := by
  rw [← Template.hasMarker_fill_iff plain template]
  cases renders.cases with
  | value whole found =>
      have pieces := Text.cut_of_wholeMarker? rfl whole
      constructor
      · intro literal member
        simp only [Template.literals, pieces, List.map_cons, List.map_nil, List.mem_cons,
          List.not_mem_nil, or_false, or_self] at member
        rw [member]
        exact Template.not_hasMarker_nil
      · refine iff_of_false ?_ ?_
        · rintro ⟨text, rfl, marker⟩
          exact Template.IsPlain.not_hasMarker (plain.resolve? found) marker
        · simp only [pieces, Text.Pieces.fill, List.flatMap_cons, List.flatMap_nil, List.nil_append,
            List.append_nil]
          exact (plain.textOf _).not_hasMarker
  | text rendered =>
      obtain ⟨filled, unmarked⟩ := of_gives_renderText rendered
      rw [← filled]
      refine ⟨unmarked, ?_, fun marker => ⟨_, rfl, marker⟩⟩
      rintro ⟨_, ⟨⟩, marker⟩
      exact marker

end Substitution

namespace Json

/-- **When a strict substitution leaves a marker.** No literal piece of a template has one, and at
every place the result has a text with a marker if and only if the value has a template there with a
marker after its placeholders were blanked out. -/
theorem strict_leaves_marker_iff {bindings : Bindings} (plain : bindings.ArePlain) {value : Json}
    {substituted : Substituted Json}
    (succeeded : value.substitute bindings .strict = .ok substituted)
    (place : List Step) :
    (∀ template, value.at? place = some (.str template) →
        ∀ literal ∈ Template.literals template, ¬ HasMarker literal) ∧
      ((∃ text, substituted.value.at? place = some (.str text) ∧ HasMarker text.toList) ↔
        ∃ template, value.at? place = some (.str template) ∧
          HasMarker (Template.blanked bindings template)) := by
  have renders : Substitution.Renders bindings value substituted.value :=
    ⟨[], substituted.warnings, succeeded⟩
  have related := Substitution.renders_at plain renders place
  generalize value.at? place = here at related ⊢
  generalize substituted.value.at? place = there at related ⊢
  cases related with
  | none => exact ⟨nofun, iff_of_false nofun nofun⟩
  | @some before after made =>
      constructor
      · rintro template ⟨⟩
        exact (Substitution.leaves_marker_iff plain made).1
      · constructor
        · rintro ⟨text, same, marker⟩
          obtain rfl := Option.some.inj same
          obtain ⟨template, rfl⟩ := Substitution.exists_template_of_renders made
          have left := (Substitution.leaves_marker_iff plain made).2
          exact ⟨template, rfl, left.mp ⟨text, rfl, marker⟩⟩
        · rintro ⟨template, same, marker⟩
          obtain rfl := Option.some.inj same
          have left := (Substitution.leaves_marker_iff plain made).2
          obtain ⟨text, rfl, kept⟩ := left.mpr marker
          exact ⟨text, rfl, kept⟩

/-- A placeholder between braces, and a binding for it. -/
def straddled : Json := .obj [("q", .str "\x7b\x7b a\x7b\x7bx\x7d\x7d \x7d\x7d")]

/-- Its result, in which the text is a marker again. -/
def straddledResult : Substituted Json := ⟨.obj [("q", .str "\x7b\x7b a1 \x7d\x7d")], []⟩

/-- The name in the middle is bound to a number. -/
def oneBinding : Bindings := .ofList [("x", .ofInt 1)]

/-- The digits of a number are plain. -/
theorem arePlain_oneBinding : oneBinding.ArePlain := by
  intro entry member
  rw [List.mem_singleton.mp member]
  exact trivial

/-- Strict substitution accepts the straddled marker. -/
theorem substitute_straddled :
    straddled.substitute oneBinding .strict = .ok straddledResult := by
  rfl

/-- A marker written around a placeholder is left in the result of strict substitution. -/
theorem strict_leaves_marker_iff_straddled :
    oneBinding.ArePlain ∧ straddled.substitute oneBinding .strict = .ok straddledResult ∧
      (∀ template, straddled.at? [.field "q"] = some (.str template) →
        ∀ literal ∈ Template.literals template, ¬ HasMarker literal) ∧
      ((∃ text, straddledResult.value.at? [.field "q"] = some (.str text) ∧
          HasMarker text.toList) ↔
        ∃ template, straddled.at? [.field "q"] = some (.str template) ∧
          HasMarker (Template.blanked oneBinding template)) :=
  ⟨arePlain_oneBinding, substitute_straddled,
    strict_leaves_marker_iff arePlain_oneBinding substitute_straddled [.field "q"]⟩

/-- Braces of two literal pieces make up a marker around what a placeholder stands for. -/
theorem strict_substitution_leaves_marker :
    oneBinding.ArePlain ∧ straddled.substitute oneBinding .strict = .ok straddledResult ∧
      ∃ text, straddledResult.value.at? [.field "q"] = some (.str text) ∧
        HasMarker text.toList := by
  refine ⟨arePlain_oneBinding, substitute_straddled, _, rfl, ?_⟩
  exact (Template.hasMarker_iff_foldl _).mpr (by decide)

end Json

end ActionGateway
