import ActionGateway.Proofs.LeftoverMarkers
import ActionGateway.Proofs.VariableReferences

/-!
# Placeholders among variable references

A file is read twice: references to variables are resolved when it is loaded, placeholders of
bindings when an action runs. The two share their braces, and a dollar sign right before a
placeholder makes a reference out of it, with an opening brace at the start of its name. Nothing
else does. So a template comes through loading as it is, in whatever environment, exactly when none
of its placeholders follows a dollar sign.
-/

namespace ActionGateway

/-- **Template**: literal text that begins no reference, with placeholders of bindings in it. -/
structure BindingTemplate where
  pieces : Text.Pieces String
  literal : ∀ text ∈ pieces.head :: pieces.tail.map Prod.snd, ¬ ['$', '\x7b'] <:+: text
  named : ∀ name ∈ pieces.markers, ∀ c ∈ name.toList,
    c ≠ '$' ∧ c ≠ ':' ∧ c ≠ '\x7b' ∧ c ≠ '\x7d'

namespace BindingTemplate

/-- A placeholder as it is written. -/
def placeholderText (name : String) : List Char :=
  '\x7b' :: '\x7b' :: (name.toList ++ ['\x7d', '\x7d'])

/-- The text of a template. -/
def text (template : BindingTemplate) : String :=
  String.ofList (template.pieces.fill placeholderText)

/-- The names of the placeholders that follow a dollar sign, given the text before the first one. -/
def dollaredFrom : List Char → List (String × List Char) → List String
  | _, [] => []
  | literal, (name, next) :: rest =>
    if literal.getLast? = some '$' then name :: dollaredFrom next rest else dollaredFrom next rest

/-- The names of the placeholders that follow a dollar sign. -/
def dollared (template : BindingTemplate) : List String :=
  dollaredFrom template.pieces.head template.pieces.tail

/-- The reference that a dollar sign makes of a placeholder. -/
def captured (name : String) : VariableReference :=
  ⟨String.ofList ('\x7b' :: name.toList), none⟩

end BindingTemplate

namespace Text

/-- Literal text goes on as long as nothing is recognised. -/
theorem cutFrom_literals {α : Type} {recognise : Recogniser α} (earlier literal rest : List Char)
    (unmarked : ∀ before c after, literal = before ++ c :: after →
      recognise (c :: (after ++ rest)) = .literal) :
    cutFrom recognise earlier 0 (literal ++ rest) =
      cutFrom recognise (literal.reverse ++ earlier) 0 rest := by
  induction literal generalizing earlier with
  | nil => rfl
  | cons c literal ih =>
      rw [List.cons_append, cutFrom_literal earlier (unmarked [] c literal rfl),
        ih (c :: earlier) fun before d after split => unmarked (c :: before) d after (by
          rw [split, List.cons_append]),
        List.reverse_cons, List.append_assoc]
      rfl

end Text

namespace VariableReference

/-- Inside literal text that has no dollar sign before a brace nothing is recognised. At its end
that depends on what follows. -/
theorem recognise_within {literal before after : List Char} {c : Char}
    (begins : ¬ ['$', '\x7b'] <:+: literal) (split : literal = before ++ c :: after)
    {rest : List Char} (ends : after = [] → c = '$' → rest.head? ≠ some '\x7b') :
    recognise (c :: (after ++ rest)) = .literal := by
  by_cases dollar : c = '$'
  · subst dollar
    apply recognise_of_head_ne
    cases after with
    | nil => exact ends rfl rfl
    | cons d after =>
        intro brace
        obtain rfl := Option.some.inj brace
        apply begins
        refine ⟨before, after, ?_⟩
        rw [split, List.append_assoc]
        rfl
  · exact recognise_of_ne _ dollar

end VariableReference

namespace BindingTemplate

open VariableReference

theorem recognise_captured {name : List Char} (rest : List Char)
    (named : ∀ c ∈ name, c ≠ '$' ∧ c ≠ ':' ∧ c ≠ '\x7b' ∧ c ≠ '\x7d') :
    recognise ('$' :: (('\x7b' :: ('\x7b' :: name) ++ ['\x7d']) ++ rest)) =
      .marker ⟨String.ofList ('\x7b' :: name), none⟩
        (('\x7b' :: ('\x7b' :: name) ++ ['\x7d']).length + 1) := by
  refine recognise_spelled (List.cons_ne_nil _ _) ?_ rest
  intro c member
  rcases List.mem_cons.mp member with rfl | inside
  · decide
  · obtain ⟨-, colon, -, brace⟩ := named c inside
    exact (Bool.and_eq_true _ _).mpr ⟨bne_iff_ne.mpr brace, bne_iff_ne.mpr colon⟩

/-- **The references of a template** are the placeholders after dollar signs. -/
theorem markers_cutFrom (earlier : List Char) {literal : List Char}
    {tail : List (String × List Char)}
    (begins : ∀ text ∈ literal :: tail.map Prod.snd, ¬ ['$', '\x7b'] <:+: text)
    (named : ∀ name ∈ tail.map Prod.fst, ∀ c ∈ name.toList,
      c ≠ '$' ∧ c ≠ ':' ∧ c ≠ '\x7b' ∧ c ≠ '\x7d') :
    (Text.cutFrom recognise earlier 0
        (Text.Pieces.fill ⟨literal, tail⟩ placeholderText)).markers =
      (dollaredFrom literal tail).map captured := by
  induction tail generalizing earlier literal with
  | nil =>
      have own := begins literal List.mem_cons_self
      rw [Text.Pieces.fill, List.flatMap_nil, Text.cutFrom_literals earlier literal [] ?_]
      · rfl
      · intro before c after split
        exact recognise_within own split fun _ _ => (Option.some_ne_none _).symm
  | cons piece rest ih =>
      obtain ⟨name, next⟩ := piece
      obtain ⟨own, others⟩ := List.forall_mem_cons.mp begins
      obtain ⟨ownName, otherNames⟩ := List.forall_mem_cons.mp named
      have later (earlier : List Char) := ih earlier others otherNames
      have filled : Text.Pieces.fill ⟨literal, (name, next) :: rest⟩ placeholderText =
          literal ++ (placeholderText name ++ Text.Pieces.fill ⟨next, rest⟩ placeholderText) := by
        simp only [Text.Pieces.fill, List.flatMap_cons, List.append_assoc]
      rw [filled]
      generalize Text.Pieces.fill ⟨next, rest⟩ placeholderText = afterwards at later ⊢
      by_cases dollar : literal.getLast? = some '$'
      · obtain ⟨before, rfl⟩ := List.getLast?_eq_some_iff.mp dollar
        have recognised := recognise_captured ('\x7d' :: afterwards) ownName
        have arranged : before ++ ['$'] ++ (placeholderText name ++ afterwards) =
            before ++ '$' :: (('\x7b' :: ('\x7b' :: name.toList) ++ ['\x7d']) ++
              '\x7d' :: afterwards) := by
          simp only [placeholderText, List.append_assoc, List.cons_append, List.nil_append]
        rw [arranged, Text.cutFrom_literals earlier before _ ?_, Text.cutFrom_marker _ recognised,
          dollaredFrom, if_pos dollar, List.map_cons, ← later ['\x7d'],
          ← Text.cutFrom_literal [] (recognise_of_ne _ (by decide))]
        · rfl
        · intro start c after split
          have apart : some '$' ≠ some '\x7b' := by decide
          refine recognise_within (fun inside => own ?_) split fun _ _ => apart
          exact inside.trans (List.prefix_append before ['$']).isInfix
      · rw [Text.cutFrom_literals earlier literal _ ?_,
          Text.cutFrom_literals _ (placeholderText name) _ ?_, dollaredFrom, if_neg dollar, later]
        · intro before c after split
          apply recognise_of_ne
          rintro rfl
          have inside : '$' ∈ placeholderText name := by
            rw [split]
            exact List.mem_append_right _ List.mem_cons_self
          simp only [placeholderText, List.mem_cons, List.mem_append, Char.reduceEq, false_or,
            List.not_mem_nil, or_false] at inside
          exact (ownName _ inside).1 rfl
        · intro before c after split
          refine recognise_within own split fun last same => (dollar ?_).elim
          rw [split, last, same]
          exact List.getLast?_concat

variable (template : BindingTemplate)

theorem referencesOfText_text :
    Variables.referencesOfText template.text = template.dollared.map captured := by
  unfold Variables.referencesOfText text Text.cut
  rw [String.toList_ofList]
  exact markers_cutFrom [] template.literal template.named

/-- A template without a dollar sign before a placeholder comes through. -/
theorem resolve_of_not_dollared {template : BindingTemplate} (apart : template.dollared = [])
    (known : Variables) : known.resolve (.str template.text) = .ok (.str template.text) := by
  have plain : Variables.referencesOfText template.text = [] := by
    rw [referencesOfText_text, apart]
    rfl
  exact Variables.resolveText_of_unreferenced plain

/-- A template with a dollar sign before a placeholder is refused, unless there is a variable of
such a name. -/
theorem resolve_of_dollared {template : BindingTemplate} {name : String} {others : List String}
    (first : template.dollared = name :: others) (known : Variables)
    (unset : known.lookup (captured name).name = none) :
    known.resolve (.str template.text) =
      .error (if known.allows (captured name).name then .notFound (captured name).name
        else .notAllowed (captured name).name known.allowedPrefixes) := by
  have references : Variables.referencesOfText template.text =
      captured name :: others.map captured := by
    rw [referencesOfText_text, first, List.map_cons]
  apply Variables.resolveText_of_refused references
  have bare : (captured name).fallback = none := rfl
  unfold Variables.textOf Variables.checkName
  by_cases allowed : known.allows (captured name).name = true
  · simp only [allowed, ↓reduceIte, bind, Except.bind, unset, bare]
  · simp only [allowed, ↓reduceIte, bind, Except.bind, Bool.false_eq_true]

/-- **Which templates come through everywhere.** -/
theorem resolve_eq_self_iff (template : BindingTemplate) :
    (∀ known : Variables, known.resolve (.str template.text) = .ok (.str template.text)) ↔
      template.dollared = [] := by
  refine ⟨fun same => ?_, resolve_of_not_dollared⟩
  cases named : template.dollared with
  | nil => rfl
  | cons name others =>
      have refused := resolve_of_dollared named ⟨[], fun _ => none⟩ rfl
      rw [same] at refused
      exact nomatch refused

end BindingTemplate

end ActionGateway
