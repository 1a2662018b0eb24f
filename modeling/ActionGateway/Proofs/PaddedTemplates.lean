import ActionGateway.Proofs.BindingTemplates
import ActionGateway.Proofs.StrippedText
import ActionGateway.Proofs.SubstitutionModes
import Mathlib.Data.List.TakeWhile

/-!
# Rendering in one pass

A template of literal text without braces and of placeholders, each with any blank space around its
name, is read back as what it was made of. Rendering puts the text of each value in the place of its
placeholder and looks at none of it, so a value that looks like a placeholder stays as it is. What
is warned of are the names without a value, once for each time that they occur.
-/

namespace ActionGateway

open Template (IsPlain)

/-- A placeholder as it is written, with blank characters around its name. -/
structure PaddedName where
  before : List Char
  name : String
  after : List Char
  blank : ∀ c ∈ before ++ after, Text.isBlank c = true
  plain : IsPlain name.toList
  trimmed : Text.trim name.toList = name.toList

/-- **Template** of literal text and placeholders, with no other braces. -/
structure PaddedTemplate where
  pieces : Text.Pieces PaddedName
  plain : ∀ literal ∈ pieces.head :: pieces.tail.map Prod.snd, IsPlain literal

namespace PaddedName

/-- What stands between the braces: the name and its padding. -/
def inner (padded : PaddedName) : List Char :=
  padded.before ++ padded.name.toList ++ padded.after

/-- The placeholder as it is written, braces included. -/
def text (padded : PaddedName) : List Char :=
  '\x7b' :: ('\x7b' :: padded.inner ++ ['\x7d', '\x7d'])

end PaddedName

namespace PaddedTemplate

/-- The template as it is written. -/
def text (template : PaddedTemplate) : String :=
  String.ofList (template.pieces.fill PaddedName.text)

/-- The names of the placeholders, in order. -/
def names (template : PaddedTemplate) : List String :=
  template.pieces.markers.map PaddedName.name

/-- **The rendered template**: the literal text with the texts of the values in it. -/
def rendered (template : PaddedTemplate) (bindings : Bindings) : String :=
  String.ofList (template.pieces.fill fun padded => bindings.textOf padded.name)

/-- The names that stand for nothing, each as often as it occurs. -/
def missing (template : PaddedTemplate) (bindings : Bindings) : List String :=
  template.names.filter fun name => (bindings.resolve? name).isNone

end PaddedTemplate

/-! ## Reading a template back -/

namespace Template

/-- No placeholder begins with anything but a brace. -/
theorem placeholder_of_ne {c : Char} (rest : List Char) (other : c ≠ '\x7b') :
    placeholder (c :: rest) = .literal := by
  unfold placeholder
  split
  · rename_i same
    exact (other (List.cons.inj same).1).elim
  · rfl

theorem strayMarker_of_ne {c : Char} (rest : List Char) (other : c ≠ '\x7b') :
    strayMarker (c :: rest) = .literal := by
  unfold strayMarker
  split
  · rename_i same
    exact (other (List.cons.inj same).1).elim
  · rfl

/-- A plain text has no opening brace. -/
theorem IsPlain.ne_opening {text : List Char} (plain : IsPlain text) {c : Char}
    (member : c ∈ text) :
    c ≠ '\x7b' := by
  rintro rfl
  exact absurd (plain _ member) (by decide)

/-- Blanks are plain. -/
theorem isPlain_of_blank {text : List Char} (blank : ∀ c ∈ text, Text.isBlank c = true) :
    IsPlain text := by
  intro c member
  have own := blank c member
  unfold isNameChar
  rw [Bool.and_eq_true, bne_iff_ne, bne_iff_ne]
  constructor
  · rintro rfl
    exact absurd own (by decide)
  · rintro rfl
    exact absurd own (by decide)

/-- **A placeholder as it is written** is recognised, whatever follows. -/
theorem placeholder_text (padded : PaddedName) (rest : List Char) :
    placeholder ('\x7b' :: (('\x7b' :: padded.inner ++ ['\x7d', '\x7d']) ++ rest)) =
      .marker padded.name (('\x7b' :: padded.inner ++ ['\x7d', '\x7d']).length + 1) := by
  obtain ⟨blankBefore, blankAfter⟩ := List.forall_mem_append.mp padded.blank
  have plain : IsPlain padded.inner :=
    ((isPlain_of_blank blankBefore).append padded.plain).append (isPlain_of_blank blankAfter)
  have taken : (padded.inner ++ '\x7d' :: '\x7d' :: rest).takeWhile isNameChar = padded.inner := by
    rw [List.takeWhile_append_of_pos plain, List.takeWhile_cons_of_neg (by decide), List.append_nil]
  have split : ('\x7b' :: padded.inner ++ ['\x7d', '\x7d']) ++ rest =
      '\x7b' :: (padded.inner ++ '\x7d' :: '\x7d' :: rest) := by
    rw [List.append_assoc]
    rfl
  have trimmed : Text.trim padded.inner = padded.name.toList :=
    (Text.trim_padded padded.blank _).trans padded.trimmed
  rw [split]
  simp only [placeholder, taken, List.drop_left, trimmed, String.ofList_toList, List.cons_append,
    List.length_cons, List.length_append, List.length_nil]

/-- Literal text without braces is left out of the search. -/
theorem cutFrom_plain {α : Type} {recognise : Text.Recogniser α}
    (unopened : ∀ c rest, c ≠ '\x7b' → recognise (c :: rest) = .literal)
    {literal : List Char} (plain : IsPlain literal) (rest : List Char) :
    Text.cutFrom recognise [] 0 (literal ++ rest) =
      Text.cutFrom recognise literal.reverse 0 rest := by
  rw [Text.cutFrom_literals [] literal rest, List.append_nil]
  intro before c after split
  apply unopened
  apply plain.ne_opening
  rw [split]
  exact List.mem_append_right _ List.mem_cons_self

/-- **A template is cut into what it was made of.** -/
theorem cut_fill {literal : List Char} {tail : List (PaddedName × List Char)}
    (plain : ∀ text ∈ literal :: tail.map Prod.snd, IsPlain text) :
    Text.cut placeholder (Text.Pieces.fill ⟨literal, tail⟩ PaddedName.text) =
      ⟨literal, tail.map fun piece => (piece.1.name, piece.2)⟩ := by
  induction tail generalizing literal with
  | nil =>
      have own := plain literal List.mem_cons_self
      rw [Text.Pieces.fill, List.flatMap_nil, Text.cut,
        cutFrom_plain (fun _ => placeholder_of_ne) own]
      simp only [Text.cutFrom, List.reverse_reverse, List.map_nil]
  | cons piece rest ih =>
      obtain ⟨padded, next⟩ := piece
      obtain ⟨own, others⟩ := List.forall_mem_cons.mp plain
      have filled : Text.Pieces.fill ⟨literal, (padded, next) :: rest⟩ PaddedName.text =
          literal ++ ('\x7b' :: (('\x7b' :: padded.inner ++ ['\x7d', '\x7d']) ++
            Text.Pieces.fill ⟨next, rest⟩ PaddedName.text)) := by
        simp only [Text.Pieces.fill, List.flatMap_cons, PaddedName.text, List.append_assoc,
          List.cons_append]
      rw [filled, Text.cut, cutFrom_plain (fun _ => placeholder_of_ne) own,
        Text.cutFrom_marker _ (placeholder_text padded _), ih others, List.reverse_reverse]
      rfl

end Template

namespace PaddedTemplate

/-- A template is cut into the pieces that it was written from. -/
theorem cut_text (template : PaddedTemplate) :
    Text.cut Template.placeholder template.text.toList =
      ⟨template.pieces.head, template.pieces.tail.map fun piece => (piece.1.name, piece.2)⟩ := by
  rw [text, String.toList_ofList]
  exact Template.cut_fill template.plain

/-- Its placeholders are its names, in order. -/
theorem placeholders_text (template : PaddedTemplate) :
    Template.placeholders template.text = template.names := by
  rw [Template.placeholders, cut_text, Text.Pieces.markers, List.map_map, names,
    Text.Pieces.markers, List.map_map]
  rfl

end PaddedTemplate

/-! ## Rendering -/

namespace Substitution

variable (bindings : Bindings) (path : List String)

/-- The warnings for those of some names that stand for nothing. -/
def warningsFor (names : List String) : List Unresolved :=
  (names.filter fun name => (bindings.resolve? name).isNone).map fun name => ⟨name, path⟩

/-- A plain literal is rendered as it is, without a warning. -/
theorem renderLiteral_of_plain {literal : List Char} (plain : IsPlain literal)
    (pass : Substitution) : pass.renderLiteral path literal = .ok ⟨literal, []⟩ := by
  have uncut := Template.cutFrom_plain (fun _ => Template.strayMarker_of_ne) plain []
  rw [List.append_nil, Text.cutFrom, List.reverse_reverse] at uncut
  rw [renderLiteral, Text.cut, uncut]
  simp only [renderStrays, bind, Pass.andThen, pure, Pass.done, List.append_nil]
  rfl

/-- A placeholder is rendered as the text bound to its name, with a warning where nothing is. -/
theorem renderPlaceholder_lenient (name : String) :
    renderPlaceholder ⟨bindings, .lenient⟩ path name =
      .ok ⟨bindings.textOf name, warningsFor bindings path [name]⟩ := by
  unfold renderPlaceholder Bindings.textOf warningsFor
  cases found : bindings.resolve? name with
  | some value => simp only [List.filter, found, Option.isNone_some, List.map_nil]; rfl
  | none => simp only [List.filter, found, Option.isNone_none, List.map_cons, List.map_nil]; rfl

/-- Pieces between plain literals are filled in and warned about in their order. -/
theorem renderPieces_lenient {pieces : List (String × List Char)}
    (plain : ∀ literal ∈ pieces.map Prod.snd, IsPlain literal) :
    renderPieces ⟨bindings, .lenient⟩ path pieces =
      .ok ⟨pieces.flatMap fun piece => bindings.textOf piece.1 ++ piece.2,
        warningsFor bindings path (pieces.map Prod.fst)⟩ := by
  induction pieces with
  | nil => rfl
  | cons piece rest ih =>
      obtain ⟨own, others⟩ := List.forall_mem_cons.mp plain
      simp only [renderPieces, renderPlaceholder_lenient, renderLiteral_of_plain path own,
        ih others, bind, Pass.andThen, pure, Pass.done]
      simp only [List.nil_append, List.append_nil, List.flatMap_cons, List.append_assoc,
        warningsFor, ← List.map_append, ← List.filter_append, List.map_cons, List.cons_append]
      rfl

end Substitution

namespace PaddedTemplate

/-- **Rendering is one pass.** The placeholders of a template are its names in order. A lenient pass
gives the rendered template and a warning for each name that is missing, and a strict pass gives the
same unless a name is missing; then it fails on the first one. -/
theorem renders_in_one_pass (template : PaddedTemplate) (bindings : Bindings)
    (path : List String) :
    Template.placeholders template.text = template.names ∧
      Substitution.renderText ⟨bindings, .lenient⟩ path template.text =
        .ok ⟨template.rendered bindings,
          (template.missing bindings).map fun name => ⟨name, path⟩⟩ ∧
      Substitution.renderText ⟨bindings, .strict⟩ path template.text =
        match template.missing bindings with
        | [] => .ok ⟨template.rendered bindings, []⟩
        | first :: _ => .error ⟨first, path⟩ := by
  obtain ⟨own, others⟩ := List.forall_mem_cons.mp template.plain
  have lenient : Substitution.renderText ⟨bindings, .lenient⟩ path template.text =
      .ok ⟨template.rendered bindings,
        (template.missing bindings).map fun name => ⟨name, path⟩⟩ := by
    have plain : ∀ literal ∈ (template.pieces.tail.map fun piece => (piece.1.name, piece.2)).map
        Prod.snd, IsPlain literal := by
      rw [List.map_map]
      exact others
    have rendered := Substitution.renderPieces_lenient bindings path plain
    unfold Substitution.renderText
    simp only [cut_text, Substitution.renderLiteral_of_plain path own, rendered, bind,
      Pass.andThen, pure, Pass.done, List.nil_append, List.append_nil]
    simp only [List.flatMap_map, List.map_map, PaddedTemplate.rendered, Text.Pieces.fill, missing,
      names, Text.Pieces.markers, Substitution.warningsFor]
    rfl
  refine ⟨template.placeholders_text, lenient, ?_⟩
  obtain ⟨result, ran, strict, -⟩ := Substitution.agree_renderText bindings path template.text
  rw [strict]
  cases lenient.symm.trans ran
  rw [Substituted.tightened]
  cases template.missing bindings <;> rfl

/-- Two placeholders side by side, of which one has no name, and a third one after some text. -/
def adjacent : PaddedTemplate where
  pieces := ⟨['='], [
    (⟨[' '], "a", ['\n'], List.all_eq_true.mp rfl, by decide, by decide⟩, []),
    (⟨[], "", ['\u3000'], List.all_eq_true.mp rfl, by decide, by decide⟩, [';']),
    (⟨[], "b", [], List.all_eq_true.mp rfl, by decide, by decide⟩, [])]⟩
  plain := by decide

/-- A value that looks like a placeholder. -/
def lookalike : Bindings := .ofList [("a", .str "\x7b\x7bb\x7d\x7d")]

/-- A value that looks like a placeholder is written in and not looked at again. -/
theorem renders_in_one_pass_lookalike :
    adjacent.text = "=\x7b\x7b a\n\x7d\x7d\x7b\x7b\u3000\x7d\x7d;\x7b\x7bb\x7d\x7d" ∧
      adjacent.rendered lookalike = "=\x7b\x7bb\x7d\x7d;" ∧
      adjacent.missing lookalike = ["", "b"] ∧
      Template.placeholders adjacent.text = adjacent.names ∧
      Substitution.renderText ⟨lookalike, .lenient⟩ ["q"] adjacent.text =
        .ok ⟨adjacent.rendered lookalike,
          (adjacent.missing lookalike).map fun name => ⟨name, ["q"]⟩⟩ ∧
      Substitution.renderText ⟨lookalike, .strict⟩ ["q"] adjacent.text =
        match adjacent.missing lookalike with
        | [] => .ok ⟨adjacent.rendered lookalike, []⟩
        | first :: _ => .error ⟨first, ["q"]⟩ :=
  ⟨by decide, by decide, by decide, renders_in_one_pass adjacent lookalike ["q"]⟩

end PaddedTemplate

end ActionGateway
