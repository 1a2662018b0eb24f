import ActionGateway.Substitution

/-!
# Names of markers

What stands between the braces of a marker never holds double closing braces itself: a marker ends
at the first ones. So the text of a warning can be read back. It ends the name at the first closing
braces that it can, and what follows is the path.
-/

namespace ActionGateway

namespace Text

/-- Whatever a scan cuts out was recognised where it stands. -/
theorem recognised_of_mem_cutFrom {α : Type} {recognise : Recogniser α} {meaning : α}
    (text literal : List Char) (skip : Nat)
    (member : meaning ∈ (cutFrom recognise literal skip text).markers) :
    ∃ start size, recognise start = .marker meaning size := by
  induction text generalizing literal skip with
  | nil =>
      rw [cutFrom] at member
      exact (List.not_mem_nil member).elim
  | cons c rest ih =>
      cases skip with
      | succ skip => exact ih literal skip member
      | zero =>
          rw [cutFrom] at member
          cases recognised : recognise (c :: rest) with
          | literal =>
              rw [recognised] at member
              exact ih (c :: literal) 0 member
          | exhausted =>
              rw [recognised] at member
              exact (List.not_mem_nil member).elim
          | marker found size =>
              rw [recognised] at member
              rcases List.mem_cons.mp member with rfl | later
              · exact ⟨c :: rest, size, recognised⟩
              · exact ih [] (size - 1) later

/-- Every marker of a text was recognised somewhere. -/
theorem recognised_of_mem_cut {α : Type} {recognise : Recogniser α} {meaning : α}
    {text : List Char} (member : meaning ∈ (cut recognise text).markers) :
    ∃ start size, recognise start = .marker meaning size :=
  recognised_of_mem_cutFrom text [] 0 member

/-- A text that is one marker was recognised as that marker. -/
theorem recognised_of_wholeMarker? {α : Type} {recognise : Recogniser α} {meaning : α}
    {text : List Char} (whole : wholeMarker? recognise text = some meaning) :
    ∃ size, recognise text = .marker meaning size := by
  unfold wholeMarker? at whole
  cases recognised : recognise text with
  | literal | exhausted =>
      rw [recognised] at whole
      exact nomatch whole
  | marker found size =>
      simp only [recognised, Option.ite_none_right_eq_some, Option.some.injEq] at whole
      exact ⟨size, by rw [whole.2]⟩

/-- What belongs to the last marker is passed over. -/
theorem cutFrom_skip {α : Type} (recognise : Recogniser α) (literal skipped rest : List Char) :
    cutFrom recognise literal skipped.length (skipped ++ rest) =
      cutFrom recognise literal 0 rest := by
  induction skipped with
  | nil => rfl
  | cons c skipped ih => exact ih

/-- A text that is one marker is cut into that and nothing around it. -/
theorem cut_of_wholeMarker? {α : Type} {recognise : Recogniser α} {meaning : α}
    {text : List Char} (nothing : recognise [] = .literal)
    (whole : wholeMarker? recognise text = some meaning) :
    cut recognise text = ⟨[], [(meaning, [])]⟩ := by
  obtain ⟨size, recognised⟩ := recognised_of_wholeMarker? whole
  cases text with
  | nil =>
      rw [nothing] at recognised
      exact nomatch recognised
  | cons c rest =>
      have all : size = rest.length + 1 := by
        simp only [wholeMarker?, recognised, Option.ite_none_right_eq_some] at whole
        exact whole.1
      have passed := cutFrom_skip recognise [] rest []
      rw [List.append_nil] at passed
      simp only [cut, cutFrom, recognised, all, Nat.add_sub_cancel, passed]
      rfl

/-- Trimming a text takes a part out of it. -/
theorem isInfix_trim (text : List Char) : trim text <:+: text := by
  have ending : trim text <+: trimStart text := by
    unfold trim trimEnd
    rw [← List.reverse_suffix, List.reverse_reverse]
    exact List.dropWhile_suffix _
  exact ending.isInfix.trans (List.dropWhile_suffix _).isInfix

end Text

namespace Template

/-- A text without double closing braces, as what stands between the braces of a marker. -/
def IsMarkerName (name : String) : Prop :=
  ¬ ['\x7d', '\x7d'] <:+: name.toList
  deriving Decidable

/-- A name without closing braces, trimmed, is a marker name. -/
theorem isMarkerName_trim {inner : List Char} (open_ : ¬ ['\x7d', '\x7d'] <:+: inner) :
    IsMarkerName (String.ofList (Text.trim inner)) := by
  intro closing
  rw [String.toList_ofList] at closing
  exact open_ (closing.trans (Text.isInfix_trim inner))

/-- What stands before the closing is a beginning of the text. -/
theorem isPrefix_of_beforeClosing? {text inner : List Char}
    (found : beforeClosing? text = some inner) : inner <+: text := by
  induction text generalizing inner with
  | nil => exact nomatch found
  | cons c rest ih =>
      rw [beforeClosing?] at found
      by_cases closing : c = '\x7d' ∧ rest.head? = some '\x7d'
      · rw [if_pos closing] at found
        cases found
        exact List.nil_prefix
      · rw [if_neg closing] at found
        obtain ⟨later, foundLater, rfl⟩ := Option.map_eq_some_iff.mp found
        exact List.prefix_cons_inj c |>.mpr (ih foundLater)

/-- There are no closing braces before the first ones. -/
theorem not_infix_of_beforeClosing? {text inner : List Char}
    (found : beforeClosing? text = some inner) : ¬ ['\x7d', '\x7d'] <:+: inner := by
  induction text generalizing inner with
  | nil => exact nomatch found
  | cons c rest ih =>
      rw [beforeClosing?] at found
      by_cases closing : c = '\x7d' ∧ rest.head? = some '\x7d'
      · rw [if_pos closing] at found
        cases found
        decide
      · rw [if_neg closing] at found
        obtain ⟨later, foundLater, rfl⟩ := Option.map_eq_some_iff.mp found
        intro closed
        rcases List.infix_cons_iff.mp closed with atStart | farther
        · have present := atStart.trans
            ((List.prefix_cons_inj c).mpr (isPrefix_of_beforeClosing? foundLater))
          obtain ⟨after, split⟩ := present
          obtain ⟨rfl, rfl⟩ := List.cons.inj split
          exact closing ⟨rfl, rfl⟩
        · exact ih foundLater farther

/-- The name of a placeholder is the name of a marker. -/
theorem isMarkerName_of_placeholder {text : List Char} {name : String} {size : Nat}
    (recognised : placeholder text = .marker name size) : IsMarkerName name := by
  unfold placeholder at recognised
  split at recognised
  · rename_i rest
    simp only at recognised
    split at recognised
    · cases recognised
      apply isMarkerName_trim
      intro closing
      have brace := List.all_eq_true.mp List.all_takeWhile _ (closing.subset (.head _))
      exact absurd brace (by decide)
    · exact nomatch recognised
  · exact nomatch recognised

/-- What stands in a stray marker is the name of a marker. -/
theorem isMarkerName_of_strayMarker {text : List Char} {name : String} {size : Nat}
    (recognised : strayMarker text = .marker name size) : IsMarkerName name := by
  unfold strayMarker at recognised
  split at recognised
  · split at recognised
    · rename_i found
      cases recognised
      exact isMarkerName_trim (not_infix_of_beforeClosing? found)
    · exact nomatch recognised
  · exact nomatch recognised

end Template

/-! ## Reading a warning back -/

/-- Of two names that are closed alike in one text, the longer one adds nothing, having no closing
inside. -/
theorem eq_nil_of_append_closing {name more rest laterRest : List Char}
    (open_ : ¬ ['\x7d', '\x7d'] <:+: name ++ more)
    (split : ['\x7d', '\x7d', '\''] ++ rest = more ++ (['\x7d', '\x7d', '\''] ++ laterRest)) :
    more = [] := by
  match more with
  | [] => rfl
  | [c] => exact absurd (List.cons.inj (List.cons.inj (List.cons.inj split).2).2).1 (by decide)
  | c :: d :: more =>
      obtain ⟨rfl, tail⟩ := List.cons.inj split
      obtain ⟨rfl, -⟩ := List.cons.inj tail
      exact (open_ ⟨name, more, by rw [List.append_assoc]; rfl⟩).elim

/-- The closing braces of a warning end the name at the first place that they can. -/
theorem eq_of_append_closing {first second firstRest secondRest : List Char}
    (open_ : ¬ ['\x7d', '\x7d'] <:+: first) (openSecond : ¬ ['\x7d', '\x7d'] <:+: second)
    (same : first ++ (['\x7d', '\x7d', '\''] ++ firstRest) =
      second ++ (['\x7d', '\x7d', '\''] ++ secondRest)) :
    first = second ∧ firstRest = secondRest := by
  rcases List.append_eq_append_iff.mp same with ⟨more, rfl, split⟩ | ⟨more, rfl, split⟩
  · obtain rfl := eq_nil_of_append_closing openSecond split
    exact ⟨(List.append_nil first).symm, List.append_cancel_left split⟩
  · obtain rfl := eq_nil_of_append_closing open_ split
    exact ⟨List.append_nil second, (List.append_cancel_left split).symm⟩

namespace Unresolved

/-- The text of a warning for a marker and the text of a path. -/
def warningText (placeholder path : String) : String :=
  "Unresolved binding '\x7b\x7b" ++ placeholder ++ "\x7d\x7d' at " ++ path ++ " left empty"

/-- A warning is told by the name and the path of what is unresolved. -/
theorem warning_eq (unresolved : Unresolved) :
    unresolved.warning = warningText unresolved.placeholder unresolved.pathText := rfl

/-- The characters of a warning. -/
theorem toList_warningText (placeholder path : String) :
    (warningText placeholder path).toList =
      "Unresolved binding '\x7b\x7b".toList ++ (placeholder.toList ++
        (['\x7d', '\x7d', '\''] ++ (" at ".toList ++ (path.toList ++ " left empty".toList)))) := by
  unfold warningText
  rw [String.toList_append, String.toList_append, String.toList_append, String.toList_append,
    List.append_assoc, List.append_assoc, List.append_assoc]
  rfl

/-- **The text of a warning says what is unresolved and where.** -/
theorem warningText_injective {placeholder other path otherPath : String}
    (name : Template.IsMarkerName placeholder) (otherName : Template.IsMarkerName other)
    (same : warningText placeholder path = warningText other otherPath) :
    placeholder = other ∧ path = otherPath := by
  have texts := congrArg String.toList same
  rw [toList_warningText, toList_warningText] at texts
  obtain ⟨names, rest⟩ := eq_of_append_closing name otherName (List.append_cancel_left texts)
  have paths := List.append_cancel_right (List.append_cancel_left rest)
  exact ⟨String.toList_inj.mp names, String.toList_inj.mp paths⟩

end Unresolved

end ActionGateway
