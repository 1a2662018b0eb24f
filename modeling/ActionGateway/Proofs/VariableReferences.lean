import ActionGateway.Proofs.MarkerNames
import ActionGateway.Variables.Resolution
import Mathlib.Data.List.Forall2

/-!
# What resolution looks at

Resolution treats each text of a value by itself, and of the variables it sees no more than the
texts of the references that it finds there. The name of a reference is never empty, and any name
that has neither a closing brace nor a colon can be spelled in one.
-/

namespace ActionGateway

namespace Text

variable {α : Type} {recognise : Recogniser α}

/-- A text in which nothing is recognised is one literal. -/
theorem cutFrom_of_markers {literal text : List Char}
    (unmarked : (cutFrom recognise literal 0 text).markers = []) :
    cutFrom recognise literal 0 text = ⟨literal.reverse ++ text, []⟩ := by
  induction text generalizing literal with
  | nil =>
      rw [cutFrom, List.append_nil]
  | cons c rest ih =>
      rw [cutFrom] at unmarked ⊢
      cases recognised : recognise (c :: rest) with
      | literal =>
          simp only [recognised] at unmarked ⊢
          rw [ih unmarked, List.reverse_cons, List.append_assoc]
          rfl
      | exhausted => rfl
      | marker meaning size =>
          rw [recognised] at unmarked
          exact (List.cons_ne_nil _ _ unmarked).elim

/-- Without a marker a text is all literal. -/
theorem cut_of_markers {text : List Char} (unmarked : (cut recognise text).markers = []) :
    cut recognise text = ⟨text, []⟩ :=
  cutFrom_of_markers unmarked

/-- A character at which nothing is recognised belongs to the literal text. -/
theorem cutFrom_literal {c : Char} {rest : List Char} (literal : List Char)
    (unmarked : recognise (c :: rest) = .literal) :
    cutFrom recognise literal 0 (c :: rest) = cutFrom recognise (c :: literal) 0 rest := by
  rw [cutFrom, unmarked]

/-- A marker ends the literal text before it, and what follows is cut anew. -/
theorem cutFrom_marker {c : Char} {inner rest : List Char} {meaning : α} (literal : List Char)
    (recognised : recognise (c :: (inner ++ rest)) = .marker meaning (inner.length + 1)) :
    cutFrom recognise literal 0 (c :: (inner ++ rest)) =
      ⟨literal.reverse, (meaning, (cut recognise rest).head) :: (cut recognise rest).tail⟩ := by
  rw [cutFrom, recognised]
  simp only [Nat.add_sub_cancel, cutFrom_skip]
  rfl

end Text

namespace Json

mutual

/-- The texts of a value, in their order. -/
def texts : Json → List String
  | .str text => [text]
  | .arr items => itemTexts items
  | .obj fields => fieldTexts fields
  | _ => []

/-- The texts of the items of an array. -/
def itemTexts : List Json → List String
  | [] => []
  | item :: rest => texts item ++ itemTexts rest

/-- The texts of the fields of an object. -/
def fieldTexts : List (String × Json) → List String
  | [] => []
  | (_, value) :: rest => texts value ++ fieldTexts rest

end

end Json

namespace VariableReference

/-- **A name that a reference can have.** -/
structure CanName (name : String) : Prop where
  nonempty : name.toList ≠ []
  chars : ∀ c ∈ name.toList, isNameChar c = true

instance (name : String) : Decidable (CanName name) :=
  decidable_of_iff (name.toList ≠ [] ∧ name.toList.all isNameChar = true)
    ⟨fun holds => ⟨holds.1, List.all_eq_true.mp holds.2⟩,
      fun named => ⟨named.nonempty, List.all_eq_true.mpr named.chars⟩⟩

/-- A recognised reference has a name that can be one. -/
theorem canName_of_recognise {start : List Char} {reference : VariableReference} {size : Nat}
    (recognised : recognise start = .marker reference size) : CanName reference.name := by
  unfold recognise at recognised
  split at recognised
  · rename_i rest
    by_cases empty : (rest.takeWhile isNameChar).isEmpty = true
    · rw [if_pos empty] at recognised
      exact nomatch recognised
    · rw [if_neg empty] at recognised
      split at recognised
      · cases recognised
        constructor
        · rw [String.toList_ofList]
          exact fun nothing => empty (List.isEmpty_iff.mpr nothing)
        · rw [String.toList_ofList]
          exact List.all_eq_true.mp List.all_takeWhile
      · exact nomatch recognised
  · exact nomatch recognised

/-- No reference begins with anything but a dollar sign. -/
theorem recognise_of_ne {c : Char} (rest : List Char) (other : c ≠ '$') :
    recognise (c :: rest) = .literal := by
  unfold recognise
  split
  · rename_i same
    exact (other (List.cons.inj same).1).elim
  · rfl

/-- A dollar sign alone does not begin a reference. -/
theorem recognise_of_head_ne (c : Char) {rest : List Char} (apart : rest.head? ≠ some '\x7b') :
    recognise (c :: rest) = .literal := by
  unfold recognise
  split
  · rename_i same
    obtain ⟨-, rfl⟩ := List.cons.inj same
    exact (apart rfl).elim
  · rfl

/-- **A reference as it is spelled**, without a fallback. -/
theorem recognise_spelled {name : List Char} (nonempty : name ≠ [])
    (chars : ∀ c ∈ name, isNameChar c = true) (rest : List Char) :
    recognise ('$' :: (('\x7b' :: name ++ ['\x7d']) ++ rest)) =
      .marker ⟨String.ofList name, none⟩ (('\x7b' :: name ++ ['\x7d']).length + 1) := by
  have taken : (name ++ '\x7d' :: rest).takeWhile isNameChar = name := by
    rw [List.takeWhile_append_of_pos chars, List.takeWhile_cons_of_neg (by decide), List.append_nil]
  have split : ('\x7b' :: name ++ ['\x7d']) ++ rest = '\x7b' :: (name ++ '\x7d' :: rest) := by
    rw [List.append_assoc]
    rfl
  rw [split]
  simp only [recognise, taken, List.isEmpty_iff, nonempty, ↓reduceIte, List.drop_left, afterName?,
    List.cons_append, List.length_cons, List.length_append, List.length_nil]

end VariableReference

/-- A sequence that succeeds has succeeded in both steps. -/
theorem of_bind_eq_ok {ε α β : Type} {first : Except ε α} {next : α → Except ε β} {value : β}
    (given : first >>= next = .ok value) :
    ∃ middle, first = .ok middle ∧ next middle = .ok value := by
  cases first with
  | error reason => exact nomatch given
  | ok middle => exact ⟨middle, rfl, given⟩

namespace Variables

variable {known : Variables}

/-- A text without references is kept. -/
theorem resolveText_of_unreferenced {text : String} (plain : referencesOfText text = []) :
    known.resolveText text = .ok (.str text) := by
  have cut := Text.cut_of_markers plain
  unfold resolveText
  cases whole : Text.wholeMarker? VariableReference.recognise text.toList with
  | some reference =>
      rw [Text.cut_of_wholeMarker? rfl whole] at cut
      exact (List.cons_ne_nil _ _ (congrArg Text.Pieces.tail cut)).elim
  | none =>
      simp only [cut, renderPieces, bind, Except.bind, List.append_nil, String.ofList_toList]

/-- A text that is one reference becomes what its text is read as. -/
theorem resolveText_of_whole {text : String} {reference : VariableReference}
    (whole : Text.wholeMarker? VariableReference.recognise text.toList = some reference) :
    known.resolveText text = (known.textOf reference).map coerce := by
  unfold resolveText
  rw [whole]

/-- A reference that gives no text fails the text that it stands in. -/
theorem renderPieces_of_refused {reference : VariableReference} {reason : VariableError}
    {literal : List Char} {rest : List (VariableReference × List Char)}
    (refused : known.textOf reference = .error reason) :
    known.renderPieces ((reference, literal) :: rest) = .error reason := by
  simp only [renderPieces, refused, bind, Except.bind]

/-- A text whose first reference is refused is refused with it. -/
theorem resolveText_of_refused {text : String} {reference : VariableReference}
    {others : List VariableReference} {reason : VariableError}
    (first : referencesOfText text = reference :: others)
    (refused : known.textOf reference = .error reason) :
    known.resolveText text = .error reason := by
  cases whole : Text.wholeMarker? VariableReference.recognise text.toList with
  | some only =>
      have cut := Text.cut_of_wholeMarker? rfl whole
      unfold referencesOfText at first
      rw [cut] at first
      obtain ⟨rfl, -⟩ := List.cons.inj first
      rw [resolveText_of_whole whole, refused]
      rfl
  | none =>
      unfold resolveText
      unfold referencesOfText Text.Pieces.markers at first
      obtain ⟨⟨found, literal⟩, rest, pieces, rfl, -⟩ := List.map_eq_cons_iff.mp first
      simp only [whole, pieces, renderPieces_of_refused refused, bind, Except.bind]

mutual

/-- A value stays as it is when each of its texts does. -/
theorem resolve_of_texts (value : Json)
    (kept : ∀ text ∈ value.texts, known.resolveText text = .ok (.str text)) :
    known.resolve value = .ok value := by
  cases value with
  | str text => exact kept text List.mem_cons_self
  | arr items => rw [resolve, resolveItems_of_texts items kept]; rfl
  | obj fields => rw [resolve, resolveFields_of_texts fields kept]; rfl
  | _ => rfl

/-- Items of which each text is kept are kept. -/
theorem resolveItems_of_texts (items : List Json)
    (kept : ∀ text ∈ Json.itemTexts items, known.resolveText text = .ok (.str text)) :
    known.resolveItems items = .ok items := by
  cases items with
  | nil => rfl
  | cons item rest =>
      have own := resolve_of_texts item fun text member => kept text (List.mem_append_left _ member)
      have others := resolveItems_of_texts rest fun text member =>
        kept text (List.mem_append_right _ member)
      rw [resolveItems, own, others]
      rfl

theorem resolveFields_of_texts (fields : List (String × Json))
    (kept : ∀ text ∈ Json.fieldTexts fields, known.resolveText text = .ok (.str text)) :
    known.resolveFields fields = .ok fields := by
  cases fields with
  | nil => rfl
  | cons field rest =>
      have own := resolve_of_texts field.2 fun text member =>
        kept text (List.mem_append_left _ member)
      have others := resolveFields_of_texts rest fun text member =>
        kept text (List.mem_append_right _ member)
      rw [resolveFields, own, others]
      rfl

end

/-! ## What a resolution comes to -/

/-- The second value is the first one with its references resolved. -/
def ResolvesTo (known : Variables) (value result : Json) : Prop :=
  known.resolve value = .ok result

/-- A resolved array is an array of its items resolved. -/
theorem of_resolve_arr {items : List Json} {result : Json}
    (resolved : known.ResolvesTo (.arr items) result) :
    ∃ results, known.resolveItems items = .ok results ∧ result = .arr results := by
  rw [ResolvesTo, resolve] at resolved
  obtain ⟨results, inner, same⟩ := of_bind_eq_ok resolved
  exact ⟨results, inner, (Except.ok.inj same).symm⟩

/-- A resolved object is an object of its fields resolved. -/
theorem of_resolve_obj {fields : List (String × Json)} {result : Json}
    (resolved : known.ResolvesTo (.obj fields) result) :
    ∃ results, known.resolveFields fields = .ok results ∧ result = .obj results := by
  rw [ResolvesTo, resolve] at resolved
  obtain ⟨results, inner, same⟩ := of_bind_eq_ok resolved
  exact ⟨results, inner, (Except.ok.inj same).symm⟩

/-- Items are resolved one by one. -/
theorem forall₂_of_resolveItems {items results : List Json}
    (resolved : known.resolveItems items = .ok results) :
    List.Forall₂ known.ResolvesTo items results := by
  induction items generalizing results with
  | nil =>
      cases resolved
      exact .nil
  | cons item rest ih =>
      rw [resolveItems] at resolved
      obtain ⟨result, own, resolved⟩ := of_bind_eq_ok resolved
      obtain ⟨others, later, same⟩ := of_bind_eq_ok resolved
      cases same
      exact .cons own (ih later)

/-- Fields keep their names. -/
theorem forall₂_of_resolveFields {fields results : List (String × Json)}
    (resolved : known.resolveFields fields = .ok results) :
    List.Forall₂ (fun field result => field.1 = result.1 ∧ known.ResolvesTo field.2 result.2)
      fields results := by
  induction fields generalizing results with
  | nil =>
      cases resolved
      exact .nil
  | cons field rest ih =>
      rw [resolveFields] at resolved
      obtain ⟨result, own, resolved⟩ := of_bind_eq_ok resolved
      obtain ⟨others, later, same⟩ := of_bind_eq_ok resolved
      cases same
      exact .cons ⟨rfl, own⟩ (ih later)

/-! ## Two lookups -/

variable {first second : Variables}

/-- Variables that agree on the references render the pieces alike. -/
theorem renderPieces_congr {pieces : List (VariableReference × List Char)}
    (agree : ∀ reference ∈ pieces.map Prod.fst, first.textOf reference = second.textOf reference) :
    first.renderPieces pieces = second.renderPieces pieces := by
  induction pieces with
  | nil => rfl
  | cons piece rest ih =>
      have own := agree piece.1 List.mem_cons_self
      have others := ih fun reference member => agree reference (List.mem_cons_of_mem _ member)
      rw [renderPieces, renderPieces, own, others]

/-- Of the variables a text shows the texts of its references and nothing more. -/
theorem resolveText_congr {text : String}
    (agree : ∀ reference ∈ referencesOfText text,
      first.textOf reference = second.textOf reference) :
    first.resolveText text = second.resolveText text := by
  unfold resolveText
  cases whole : Text.wholeMarker? VariableReference.recognise text.toList with
  | some reference =>
      have found : reference ∈ referencesOfText text := by
        unfold referencesOfText
        rw [Text.cut_of_wholeMarker? rfl whole]
        exact List.mem_cons_self
      simp only [agree reference found]
  | none =>
      have same := renderPieces_congr agree
      simp only [same]

mutual

/-- Variables that resolve each text of a value alike resolve the value alike. -/
theorem resolve_congr (value : Json)
    (agree : ∀ text ∈ value.texts, first.resolveText text = second.resolveText text) :
    first.resolve value = second.resolve value := by
  cases value with
  | str text => exact agree text List.mem_cons_self
  | arr items => rw [resolve, resolve, resolveItems_congr items agree]
  | obj fields => rw [resolve, resolve, resolveFields_congr fields agree]
  | _ => rfl

theorem resolveItems_congr (items : List Json)
    (agree : ∀ text ∈ Json.itemTexts items, first.resolveText text = second.resolveText text) :
    first.resolveItems items = second.resolveItems items := by
  cases items with
  | nil => rfl
  | cons item rest =>
      have own := resolve_congr item fun text member => agree text (List.mem_append_left _ member)
      have others := resolveItems_congr rest fun text member =>
        agree text (List.mem_append_right _ member)
      rw [resolveItems, resolveItems, own, others]

theorem resolveFields_congr (fields : List (String × Json))
    (agree : ∀ text ∈ Json.fieldTexts fields, first.resolveText text = second.resolveText text) :
    first.resolveFields fields = second.resolveFields fields := by
  cases fields with
  | nil => rfl
  | cons field rest =>
      have own := resolve_congr field.2 fun text member =>
        agree text (List.mem_append_left _ member)
      have others := resolveFields_congr rest fun text member =>
        agree text (List.mem_append_right _ member)
      rw [resolveFields, resolveFields, own, others]

end

end Variables

end ActionGateway
