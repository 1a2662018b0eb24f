import ActionGateway.Proofs.BindingTemplates
import ActionGateway.Proofs.VariableChecks

/-!
# Templates of references

A template of literal text without dollar signs and of references is read back as what it was made
of, so its resolution takes one reference after the other. Each has the text of its variable in its
place, or its fallback where the variable is not set, and none of that is looked at again. The first
reference for which there is neither, or whose name is not allowed, decides how a resolution fails.

A reference that stands alone is resolved to the value that its text spells.
-/

namespace ActionGateway

namespace VariableReference

/-- **A reference that can be written.** -/
structure Writable (reference : VariableReference) : Prop where
  name : CanName reference.name
  fallback : ∀ text, reference.fallback = some text → ∀ c ∈ text.toList, isFallbackChar c = true

instance (reference : VariableReference) : Decidable reference.Writable :=
  decidable_of_iff (CanName reference.name ∧
      ∀ text ∈ reference.fallback.toList, text.toList.all isFallbackChar = true)
    ⟨fun holds => ⟨holds.1, fun text given =>
        List.all_eq_true.mp (holds.2 text (Option.mem_toList.mpr given))⟩,
      fun writable => ⟨writable.name, fun text given =>
        List.all_eq_true.mpr (writable.fallback text (Option.mem_toList.mp given))⟩⟩

/-- What is written after the name of a reference. -/
def fallbackText : Option String → List Char
  | none => []
  | some text => ':' :: text.toList

/-- What is written of a reference after its dollar sign. -/
def braced (reference : VariableReference) : List Char :=
  '\x7b' :: (reference.name.toList ++ (fallbackText reference.fallback ++ ['\x7d']))

/-- A reference as it is written. -/
def text (reference : VariableReference) : List Char :=
  '$' :: reference.braced

/-- Behind a name the fallback is read up to the closing brace. -/
theorem afterName?_fallbackText {fallback : Option String} (rest : List Char)
    (chars : ∀ text, fallback = some text → ∀ c ∈ text.toList, isFallbackChar c = true) :
    afterName? (fallbackText fallback ++ ['\x7d'] ++ rest) =
      some (fallback, (fallbackText fallback).length + 1) := by
  cases fallback with
  | none => rfl
  | some text =>
      have taken : (text.toList ++ '\x7d' :: rest).takeWhile isFallbackChar = text.toList := by
        rw [List.takeWhile_append_of_pos (chars text rfl), List.takeWhile_cons_of_neg (by decide),
          List.append_nil]
      have split : fallbackText (some text) ++ ['\x7d'] ++ rest =
          ':' :: (text.toList ++ '\x7d' :: rest) := by
        simp only [fallbackText, List.append_assoc, List.cons_append, List.nil_append]
      rw [split]
      simp only [afterName?, taken, List.drop_left, String.ofList_toList, fallbackText,
        List.length_cons]

/-- **A written reference is recognised**, whatever follows it. -/
theorem recognise_text {reference : VariableReference} (writable : reference.Writable)
    (rest : List Char) :
    recognise ('$' :: (reference.braced ++ rest)) =
      .marker reference (reference.braced.length + 1) := by
  obtain ⟨⟨nonempty, chars⟩, fallback⟩ := writable
  have after := afterName?_fallbackText rest fallback
  have stops : ∀ c others, fallbackText reference.fallback ++ ['\x7d'] ++ rest = c :: others →
      isNameChar c = false := by
    intro c others same
    cases fallback : reference.fallback with
    | none =>
        rw [fallback] at same
        cases same
        decide
    | some text =>
        rw [fallback] at same
        cases same
        decide
  have taken : (reference.name.toList ++
      (fallbackText reference.fallback ++ ['\x7d'] ++ rest)).takeWhile isNameChar =
        reference.name.toList := by
    rw [List.takeWhile_append_of_pos chars]
    cases following : fallbackText reference.fallback ++ ['\x7d'] ++ rest with
    | nil => rw [List.takeWhile_nil, List.append_nil]
    | cons c others =>
        have stop : ¬ isNameChar c = true := Bool.eq_false_iff.mp (stops c others following)
        rw [List.takeWhile_cons_of_neg stop, List.append_nil]
  have split : reference.braced ++ rest = '\x7b' ::
      (reference.name.toList ++ (fallbackText reference.fallback ++ ['\x7d'] ++ rest)) := by
    simp only [braced, List.append_assoc, List.cons_append]
  rw [split]
  simp only [recognise, taken, List.isEmpty_iff, nonempty, ↓reduceIte, List.drop_left, after,
    String.ofList_toList, braced, List.length_cons, List.length_append, List.length_nil]

/-- A written reference is a marker and nothing else. -/
theorem wholeMarker?_text {reference : VariableReference} (writable : reference.Writable) :
    Text.wholeMarker? recognise reference.text = some reference := by
  have recognised := recognise_text writable []
  rw [List.append_nil] at recognised
  rw [Text.wholeMarker?, text, recognised, List.length_cons]
  exact if_pos rfl

end VariableReference

open VariableReference

/-- **Template** of literal text without dollar signs and of references. -/
structure ReferenceTemplate where
  pieces : Text.Pieces VariableReference
  literal : ∀ text ∈ pieces.head :: pieces.tail.map Prod.snd, '$' ∉ text
  writable : ∀ reference ∈ pieces.markers, reference.Writable

namespace ReferenceTemplate

def text (template : ReferenceTemplate) : String :=
  String.ofList (template.pieces.fill VariableReference.text)

/-- The template is one reference with nothing around it. -/
def IsBare (template : ReferenceTemplate) : Prop :=
  ∃ reference, template.pieces = ⟨[], [(reference, [])]⟩

end ReferenceTemplate

/-! ## Reading a template back -/

namespace VariableReference

/-- Text without dollar signs is left out of the search. -/
theorem cutFrom_undollared {literal : List Char} (undollared : '$' ∉ literal) (rest : List Char) :
    Text.cutFrom recognise [] 0 (literal ++ rest) =
      Text.cutFrom recognise literal.reverse 0 rest := by
  rw [Text.cutFrom_literals [] literal rest, List.append_nil]
  intro before c after split
  apply recognise_of_ne
  rintro rfl
  apply undollared
  rw [split]
  exact List.mem_append_right _ List.mem_cons_self

/-- **A template is cut into what it was made of.** The induction is on its references, each with
the literal text after it. -/
theorem cut_fill {literal : List Char} {tail : List (VariableReference × List Char)}
    (undollared : ∀ text ∈ literal :: tail.map Prod.snd, '$' ∉ text)
    (writable : ∀ reference ∈ tail.map Prod.fst, reference.Writable) :
    Text.cut recognise (Text.Pieces.fill ⟨literal, tail⟩ text) = ⟨literal, tail⟩ := by
  induction tail generalizing literal with
  | nil =>
      have own := undollared literal List.mem_cons_self
      rw [Text.Pieces.fill, List.flatMap_nil, Text.cut, cutFrom_undollared own, Text.cutFrom,
        List.reverse_reverse]
  | cons piece rest ih =>
      obtain ⟨reference, next⟩ := piece
      obtain ⟨own, others⟩ := List.forall_mem_cons.mp undollared
      obtain ⟨first, later⟩ := List.forall_mem_cons.mp writable
      have filled : Text.Pieces.fill ⟨literal, (reference, next) :: rest⟩ text =
          literal ++ ('$' :: (reference.braced ++ Text.Pieces.fill ⟨next, rest⟩ text)) := by
        simp only [Text.Pieces.fill, List.flatMap_cons, text, List.append_assoc, List.cons_append]
      rw [filled, Text.cut, cutFrom_undollared own,
        Text.cutFrom_marker _ (recognise_text first _), ih others later, List.reverse_reverse]

end VariableReference

namespace ReferenceTemplate

/-- A template of references is cut into the pieces that it was written from. -/
theorem cut_text (template : ReferenceTemplate) :
    Text.cut recognise template.text.toList = template.pieces := by
  rw [text, String.toList_ofList]
  exact cut_fill template.literal template.writable

/-- A template with anything around its reference is no single reference. -/
theorem wholeMarker?_of_not_bare {template : ReferenceTemplate} (composed : ¬ template.IsBare) :
    Text.wholeMarker? recognise template.text.toList = none := by
  cases whole : Text.wholeMarker? recognise template.text.toList with
  | none => rfl
  | some reference =>
      have cut := Text.cut_of_wholeMarker? rfl whole
      rw [cut_text] at cut
      exact (composed ⟨reference, cut⟩).elim

end ReferenceTemplate

/-! ## Resolving a template -/

namespace Variables

variable (known : Variables)

/-- **What stands in the place of a reference**: the text of its variable, even an empty one, and
the fallback where the variable is not set. -/
def filling (reference : VariableReference) : List Char :=
  (((known.lookup reference.name).or reference.fallback).getD "").toList

/-- **Why a reference has nothing to stand in its place**: its name is not allowed, or its variable
is not set and there is no fallback. -/
def lack? (reference : VariableReference) : Option VariableError :=
  if known.allows reference.name = false then
    some (.notAllowed reference.name known.allowedPrefixes)
  else if known.lookup reference.name = none ∧ reference.fallback = none then
    some (.notFound reference.name)
  else none

/-- A reference stands for its filling, or for the reason that it lacks one. -/
theorem textOf_eq (reference : VariableReference) :
    known.textOf reference =
      match known.lack? reference with
      | some reason => .error reason
      | none => .ok (String.ofList (known.filling reference)) := by
  unfold textOf checkName lack? filling
  by_cases allowed : known.allows reference.name = true
  · cases found : known.lookup reference.name with
    | some text =>
        simp only [allowed, ↓reduceIte, bind, Except.bind, Bool.true_eq_false, reduceCtorEq,
          false_and, Option.some_or, Option.getD_some, String.ofList_toList]
    | none =>
        cases fallback : reference.fallback with
        | some text =>
            simp only [allowed, ↓reduceIte, bind, Except.bind, Bool.true_eq_false, reduceCtorEq,
              and_false, Option.none_or, Option.getD_some, String.ofList_toList]
        | none =>
            simp only [allowed, ↓reduceIte, bind, Except.bind, Bool.true_eq_false, and_self]
  · simp only [allowed, Bool.false_eq_true, ↓reduceIte, bind, Except.bind]

/-- References are taken one after the other, and the first one that lacks a text ends that. -/
theorem renderPieces_eq (pieces : List (VariableReference × List Char)) :
    known.renderPieces pieces =
      match (pieces.map Prod.fst).findSome? known.lack? with
      | some reason => .error reason
      | none => .ok (pieces.flatMap fun piece => known.filling piece.1 ++ piece.2) := by
  induction pieces with
  | nil => rfl
  | cons piece rest ih =>
      obtain ⟨reference, literal⟩ := piece
      rw [renderPieces, textOf_eq, ih, List.map_cons, List.findSome?_cons]
      cases known.lack? reference with
      | some reason => rfl
      | none =>
          dsimp only [bind, Except.bind]
          cases (rest.map Prod.fst).findSome? known.lack? with
          | some reason => rfl
          | none =>
              simp only [String.toList_ofList, List.flatMap_cons, List.append_assoc]

/-- A reference that stands alone gives the value that its text spells. -/
theorem resolve_written {reference : VariableReference} (writable : reference.Writable) :
    known.resolve (.str (String.ofList reference.text)) =
      (known.textOf reference).map coerce := by
  apply resolveText_of_whole
  rw [String.toList_ofList]
  exact wholeMarker?_text writable

end Variables

/-- **References in a text compose.** A template that is not just one reference is resolved to its
literal text with a text in the place of each reference, which is not looked at again; or it fails
for the first reference, in order of appearance, that lacks a text. -/
theorem ReferenceTemplate.resolve_text (template : ReferenceTemplate) (known : Variables)
    (composed : ¬ template.IsBare) :
    known.resolve (.str template.text) =
      match template.pieces.markers.findSome? known.lack? with
      | some reason => .error reason
      | none => .ok (.str (String.ofList (template.pieces.fill known.filling))) := by
  have unwhole := wholeMarker?_of_not_bare composed
  rw [Variables.resolve, Variables.resolveText, unwhole]
  simp only [cut_text, Variables.renderPieces_eq, Text.Pieces.markers]
  cases (template.pieces.tail.map Prod.fst).findSome? known.lack? with
  | some reason => rfl
  | none => rfl

namespace ReferenceTemplate

/-- Two references side by side, the second with a fallback that looks like the start of another. -/
def address : ReferenceTemplate where
  pieces := ⟨['a', ':'], [(⟨"APP_HOST", none⟩, []), (⟨"APP_PORT", some "$\x7bx"⟩, ['/']),
    (⟨"HOME", some ""⟩, [])]⟩
  literal := by decide
  writable := by decide

/-- The host is given by a text that looks like a reference, and the port is not set. -/
def addressVariables (allowedPrefixes : List String) : Variables :=
  ⟨allowedPrefixes, fun name => if name = "APP_HOST" then some "$\x7bAPP_PORT\x7d" else none⟩

/-- An address whose host looks like a reference and whose port is left at its default; where only
one prefix is allowed, the last reference is refused. -/
theorem resolve_text_address :
    ¬ address.IsBare ∧
      (addressVariables []).resolve (.str address.text) =
        .ok (.str "a:$\x7bAPP_PORT\x7d$\x7bx/") ∧
      (addressVariables ["APP_"]).resolve (.str address.text) =
        .error (.notAllowed "HOME" ["APP_"]) := by
  have composed : ¬ address.IsBare := by
    rintro ⟨reference, same⟩
    cases same
  refine ⟨composed, ?_, ?_⟩
  · rw [resolve_text address _ composed]
    decide +kernel
  · rw [resolve_text address _ composed]
    decide +kernel

end ReferenceTemplate

end ActionGateway
