import ActionGateway.Proofs.PaddedTemplates
import Mathlib.Data.List.DropRight

/-!
# Segments of templates

A template is read from left to right as literal text, placeholders and stray markers. A segment
keeps the characters that it is written with. Written one after the other, the segments of a
template are the template again: nothing is left out of them, and they stand in the order in which
they appear. A placeholder is a padded name between double braces, a stray marker is what reaches
from double opening braces to the next closing ones, and literal text has no marker.
-/

namespace ActionGateway

/-! ## How markers are written -/

namespace Text

variable {α : Type} {recognise : Recogniser α}

/-- A recogniser that also says how a marker is written. -/
def Recogniser.written (recognise : Recogniser α) : Recogniser (α × List Char) := fun text =>
  match recognise text with
  | .marker meaning size => .marker (meaning, text.take size) size
  | .literal => .literal
  | .exhausted => .exhausted

/-- A recogniser that keeps what is written recognises the same markers. -/
theorem written_eq_marker_iff {text written : List Char} {meaning : α} {size : Nat} :
    recognise.written text = .marker (meaning, written) size ↔
      recognise text = .marker meaning size ∧ text.take size = written := by
  unfold Recogniser.written
  cases recognise text with
  | literal => simp only [reduceCtorEq, false_and]
  | exhausted => simp only [reduceCtorEq, false_and]
  | marker found length =>
      simp only [Recognition.marker.injEq, Prod.mk.injEq]
      constructor
      · rintro ⟨⟨rfl, rfl⟩, rfl⟩
        exact ⟨⟨rfl, rfl⟩, rfl⟩
      · rintro ⟨⟨rfl, rfl⟩, rfl⟩
        exact ⟨⟨rfl, rfl⟩, rfl⟩

/-- A text is cut in the same places when markers keep how they are written. -/
theorem cutFrom_written (literal : List Char) (skip : Nat) (text : List Char) :
    cutFrom recognise literal skip text =
      ⟨(cutFrom recognise.written literal skip text).head,
        (cutFrom recognise.written literal skip text).tail.map fun piece =>
          (piece.1.1, piece.2)⟩ := by
  induction text generalizing literal skip with
  | nil => rfl
  | cons c rest ih =>
      cases skip with
      | succ skip => exact ih literal skip
      | zero =>
          rw [cutFrom, cutFrom, Recogniser.written]
          cases recognise (c :: rest) with
          | literal => exact ih (c :: literal) 0
          | exhausted => rfl
          | marker meaning size =>
              dsimp only
              rw [ih [] (size - 1), List.map_cons]

/-- Nothing is lost in cutting a text. -/
theorem fill_cutFrom_written
    (sized : ∀ text meaning size, recognise text = .marker meaning size → size ≠ 0)
    (literal : List Char) (skip : Nat) (text : List Char) :
    (cutFrom recognise.written literal skip text).fill Prod.snd =
      literal.reverse ++ text.drop skip := by
  induction text generalizing literal skip with
  | nil =>
      rw [cutFrom, List.drop_nil]
      rfl
  | cons c rest ih =>
      cases skip with
      | succ skip => exact ih literal skip
      | zero =>
          rw [cutFrom, Recogniser.written]
          cases recognised : recognise (c :: rest) with
          | literal =>
              dsimp only
              rw [ih (c :: literal) 0, List.reverse_cons, List.append_assoc]
              rfl
          | exhausted => exact List.append_nil _
          | marker meaning size =>
              obtain ⟨size, rfl⟩ := Nat.exists_eq_succ_of_ne_zero (sized _ _ _ recognised)
              have after := ih [] size
              simp only [Pieces.fill, List.reverse_nil, List.nil_append] at after
              simp only [Pieces.fill, List.flatMap_cons, Nat.succ_eq_add_one, Nat.add_sub_cancel,
                List.append_assoc, after, List.take_succ_cons, List.cons_append,
                List.take_append_drop, List.drop_zero]

/-- Every marker cut out stands in the text as it is written. -/
theorem exists_of_mem_cut_written {text written : List Char} {meaning : α}
    (member : (meaning, written) ∈ (cut recognise.written text).markers) :
    ∃ start size, recognise start = .marker meaning size ∧ start.take size = written := by
  obtain ⟨start, size, recognised⟩ := recognised_of_mem_cut member
  exact ⟨start, size, written_eq_marker_iff.mp recognised⟩

end Text

/-! ## Placeholders and stray markers -/

open Template (IsPlain HasMarker HasClosing)

namespace PaddedName

/-- What stands between the braces of a placeholder as a padded name. -/
def ofInner (inner : List Char) (plain : IsPlain inner) : PaddedName where
  before := inner.takeWhile Text.isBlank
  name := String.ofList (Text.trim inner)
  after := (Text.trimStart inner).rtakeWhile Text.isBlank
  blank := by
    intro c member
    rcases List.mem_append.mp member with early | late
    · exact List.mem_takeWhile_imp early
    · exact List.mem_rtakeWhile_imp late
  plain := by
    rw [String.toList_ofList]
    exact plain.of_subset (Text.isInfix_trim inner).subset
  trimmed := by
    rw [String.toList_ofList]
    exact Text.trim_trim inner

/-- A padded name made of what stands between braces has just that between them. -/
theorem inner_ofInner (inner : List Char) (plain : IsPlain inner) :
    (ofInner inner plain).inner = inner := by
  have ending : Text.trim inner ++ (Text.trimStart inner).rtakeWhile Text.isBlank =
      Text.trimStart inner := List.rdropWhile_append_rtakeWhile
  simp only [PaddedName.inner, ofInner, String.toList_ofList, List.append_assoc, ending]
  exact List.takeWhile_append_dropWhile

end PaddedName

namespace Template

/-- **A placeholder that is recognised** is a padded name between double braces. -/
theorem exists_padded_of_placeholder {text : List Char} {name : String} {size : Nat}
    (recognised : placeholder text = .marker name size) :
    ∃ padded : PaddedName, padded.name = name ∧ text.take size = padded.text ∧
      size = padded.text.length := by
  unfold placeholder at recognised
  split at recognised
  · rename_i rest
    simp only at recognised
    split at recognised
    · rename_i after split
      cases recognised
      have plain : IsPlain (rest.takeWhile isNameChar) := fun c member =>
        List.mem_takeWhile_imp member
      have taken := List.prefix_iff_eq_take.mp (List.takeWhile_prefix (l := rest) isNameChar)
      have whole := List.take_append_drop (rest.takeWhile isNameChar).length rest
      rw [split, ← taken] at whole
      have spelled : ('\x7b' :: '\x7b' :: rest) =
          (PaddedName.ofInner _ plain).text ++ after := by
        rw [PaddedName.text, PaddedName.inner_ofInner]
        simp [whole]
      have length : (PaddedName.ofInner _ plain).text.length =
          (rest.takeWhile isNameChar).length + 4 := by
        rw [PaddedName.text, PaddedName.inner_ofInner]
        simp
      refine ⟨.ofInner _ plain, rfl, ?_, length.symm⟩
      rw [spelled, ← length, List.take_left]
    · cases recognised
  · cases recognised

/-- **A template is exactly one placeholder** if it is a padded name between double braces. -/
theorem wholeMarker?_eq_some_iff {text : List Char} {name : String} :
    Text.wholeMarker? placeholder text = some name ↔
      ∃ padded : PaddedName, padded.name = name ∧ text = padded.text := by
  constructor
  · intro whole
    obtain ⟨size, recognised⟩ := Text.recognised_of_wholeMarker? whole
    obtain ⟨padded, named, spelled, -⟩ := exists_padded_of_placeholder recognised
    refine ⟨padded, named, ?_⟩
    simp only [Text.wholeMarker?, recognised, Option.ite_none_right_eq_some] at whole
    rw [← spelled, whole.1, List.take_length]
  · rintro ⟨padded, rfl, rfl⟩
    have recognised := placeholder_text padded []
    rw [List.append_nil] at recognised
    unfold Text.wholeMarker? PaddedName.text
    rw [recognised]
    exact if_pos rfl

/-- Behind what stands before the closing come the two braces. -/
theorem eq_append_of_beforeClosing? {text inner : List Char}
    (found : beforeClosing? text = some inner) :
    ∃ after, text = inner ++ '\x7d' :: '\x7d' :: after := by
  induction text generalizing inner with
  | nil => exact nomatch found
  | cons c rest ih =>
      rw [beforeClosing?] at found
      by_cases closes : c = '\x7d' ∧ rest.head? = some '\x7d'
      · rw [if_pos closes] at found
        cases found
        obtain ⟨rfl, second⟩ := closes
        obtain ⟨after, rfl⟩ := List.head?_eq_some_iff.mp second
        exact ⟨after, rfl⟩
      · rw [if_neg closes] at found
        obtain ⟨later, foundLater, rfl⟩ := Option.map_eq_some_iff.mp found
        obtain ⟨after, rfl⟩ := ih foundLater
        exact ⟨after, rfl⟩

/-- **A stray marker that is recognised** reaches up to the next closing braces. -/
theorem exists_inner_of_strayMarker {text : List Char} {name : String} {size : Nat}
    (recognised : strayMarker text = .marker name size) :
    ∃ inner, name = String.ofList (Text.trim inner) ∧ ¬ HasClosing inner ∧
      text.take size = '\x7b' :: '\x7b' :: (inner ++ ['\x7d', '\x7d']) ∧ size ≠ 0 := by
  unfold strayMarker at recognised
  split at recognised
  · split at recognised
    · rename_i inner found
      cases recognised
      obtain ⟨after, rfl⟩ := eq_append_of_beforeClosing? found
      have spelled : '\x7b' :: '\x7b' :: (inner ++ '\x7d' :: '\x7d' :: after) =
          '\x7b' :: '\x7b' :: (inner ++ ['\x7d', '\x7d']) ++ after := by
        simp
      have length : inner.length + 4 =
          ('\x7b' :: '\x7b' :: (inner ++ ['\x7d', '\x7d'])).length := by
        simp
      refine ⟨inner, rfl, not_infix_of_beforeClosing? found, ?_, Nat.succ_ne_zero _⟩
      rw [spelled, length, List.take_left]
    · exact nomatch recognised
  · exact nomatch recognised

/-- The literal text between stray markers has no marker. The induction is on the text; it carries
that what is added to the literal text at hand is the start of the text. -/
theorem not_hasMarker_of_cutFrom_strayMarker (literal : List Char) (skip : Nat)
    (text : List Char) :
    (∃ own, (Text.cutFrom strayMarker literal skip text).head = literal.reverse ++ own ∧
      own <+: text.drop skip ∧ ¬ HasMarker own) ∧
    ∀ piece ∈ (Text.cutFrom strayMarker literal skip text).tail, ¬ HasMarker piece.2 := by
  induction text generalizing literal skip with
  | nil =>
      refine ⟨⟨[], (List.append_nil _).symm, List.nil_prefix, not_hasMarker_nil⟩, ?_⟩
      intro piece member
      cases member
  | cons c rest ih =>
      cases skip with
      | succ skip => exact ih literal skip
      | zero =>
          rw [Text.cutFrom, List.drop_zero]
          rcases strayMarker_cases (c :: rest) with ⟨later, split, found⟩ | ⟨unopened, found⟩
          · rcases found with ⟨name, size, found⟩ | ⟨unclosed, found⟩
            · rw [found]
              obtain ⟨⟨own, head, -, unmarked⟩, others⟩ := ih [] (size - 1)
              refine ⟨⟨[], (List.append_nil _).symm, List.nil_prefix, not_hasMarker_nil⟩, ?_⟩
              refine List.forall_mem_cons.mpr ⟨?_, others⟩
              dsimp only
              rw [head]
              exact unmarked
            · rw [found]
              refine ⟨⟨c :: rest, rfl, List.prefix_refl _, ?_⟩, ?_⟩
              · intro marker
                have closing := marker.hasClosing
                rw [split] at closing
                simp only [hasClosing_cons_iff, Char.reduceEq, false_and, false_or] at closing
                exact unclosed closing
              · intro piece member
                cases member
          · rw [found]
            obtain ⟨⟨own, head, start, unmarked⟩, others⟩ := ih (c :: literal) 0
            refine ⟨⟨c :: own, ?_, ?_, ?_⟩, others⟩
            · rw [head, List.reverse_cons, List.append_assoc]
              rfl
            · exact (List.prefix_cons_inj c).mpr start
            · rw [hasMarker_cons_iff]
              rintro (⟨rfl, later, rfl, -⟩ | farther)
              · obtain ⟨after, rfl⟩ := start
                exact unopened ⟨later ++ after, rfl⟩
              · exact unmarked farther

/-! ## Segments -/

/-- A segment of a template, with the characters that it is written with. -/
inductive Segment where
  | literal (text : List Char)
  | placeholder (name : String) (written : List Char)
  | stray (name : String) (written : List Char)
  deriving DecidableEq, Repr

namespace Segment

/-- The characters of a segment. -/
def written : Segment → List Char
  | literal text => text
  | placeholder _ written => written
  | stray _ written => written

/-- **A segment is written as what it is.** -/
inductive IsWritten : Segment → Prop where
  | literal {text : List Char} (unmarked : ¬ HasMarker text) : IsWritten (.literal text)
  | placeholder (padded : PaddedName) : IsWritten (.placeholder padded.name padded.text)
  | stray {inner : List Char} (unclosed : ¬ HasClosing inner) :
      IsWritten (.stray (String.ofList (Text.trim inner))
        ('\x7b' :: '\x7b' :: (inner ++ ['\x7d', '\x7d'])))

end Segment

/-- The segments of text between placeholders. -/
def literalSegments (literal : List Char) : List Segment :=
  let pieces := Text.cut strayMarker.written literal
  .literal pieces.head :: pieces.tail.flatMap fun piece =>
    [.stray piece.1.1 piece.1.2, .literal piece.2]

/-- **The segments of a template**, in order. -/
def segments (template : String) : List Segment :=
  let pieces := Text.cut placeholder.written template.toList
  literalSegments pieces.head ++ pieces.tail.flatMap fun piece =>
    .placeholder piece.1.1 piece.1.2 :: literalSegments piece.2

/-- The segments of a literal are written as the literal. -/
theorem written_literalSegments (literal : List Char) :
    (literalSegments literal).flatMap Segment.written = literal := by
  have sized : ∀ text name size, strayMarker text = .marker name size → size ≠ 0 := by
    intro text name size recognised
    obtain ⟨inner, -, -, -, positive⟩ := exists_inner_of_strayMarker recognised
    exact positive
  have filled := Text.fill_cutFrom_written sized [] 0 literal
  simp only [literalSegments, List.flatMap_cons, List.flatMap_assoc, Segment.written,
    List.flatMap_nil, List.append_nil]
  exact filled

/-- **The segments of a template, one after the other, are the template.** -/
theorem written_segments (template : String) :
    (segments template).flatMap Segment.written = template.toList := by
  have sized : ∀ text name size, placeholder text = .marker name size → size ≠ 0 := by
    intro text name size recognised
    obtain ⟨padded, -, -, length⟩ := exists_padded_of_placeholder recognised
    rw [length]
    exact Nat.succ_ne_zero _
  have filled := Text.fill_cutFrom_written sized [] 0 template.toList
  simp only [segments, List.flatMap_append, List.flatMap_assoc, List.flatMap_cons,
    Segment.written, written_literalSegments]
  exact filled

/-- Each of them is written as what it is. -/
theorem isWritten_of_mem_literalSegments {literal : List Char} {segment : Segment}
    (member : segment ∈ literalSegments literal) : segment.IsWritten := by
  obtain ⟨⟨own, head, -, unmarked⟩, others⟩ :=
    not_hasMarker_of_cutFrom_strayMarker [] 0 literal
  rw [Text.cutFrom_written] at head others
  rcases List.mem_cons.mp member with rfl | later
  · apply Segment.IsWritten.literal
    dsimp only at head
    rw [Text.cut, head]
    exact unmarked
  · obtain ⟨⟨⟨name, written⟩, text⟩, held, inside⟩ := List.mem_flatMap.mp later
    rcases List.mem_cons.mp inside with rfl | inside
    · obtain ⟨start, size, recognised, rfl⟩ :=
        Text.exists_of_mem_cut_written (List.mem_map_of_mem held)
      obtain ⟨inner, rfl, unclosed, spelled, -⟩ := exists_inner_of_strayMarker recognised
      dsimp only
      rw [spelled]
      exact .stray unclosed
    · rw [List.mem_singleton.mp inside]
      exact .literal (others (name, text) (List.mem_map.mpr ⟨_, held, rfl⟩))

/-- **Every segment is what it is written as.** -/
theorem isWritten_of_mem_segments {template : String} {segment : Segment}
    (member : segment ∈ segments template) : segment.IsWritten := by
  rcases List.mem_append.mp member with first | later
  · exact isWritten_of_mem_literalSegments first
  · obtain ⟨⟨⟨name, written⟩, text⟩, held, inside⟩ := List.mem_flatMap.mp later
    rcases List.mem_cons.mp inside with rfl | inside
    · obtain ⟨start, size, recognised, rfl⟩ :=
        Text.exists_of_mem_cut_written (List.mem_map_of_mem held)
      obtain ⟨padded, rfl, spelled, -⟩ := exists_padded_of_placeholder recognised
      dsimp only
      rw [spelled]
      exact .placeholder padded
    · exact isWritten_of_mem_literalSegments inside

/-- A text without a marker is all literal. -/
theorem exists_literal_of_mem_segments {template : String}
    (unmarked : ¬ HasMarker template.toList) {segment : Segment}
    (member : segment ∈ segments template) : ∃ text, segment = .literal text := by
  have inside : segment.written <:+: template.toList := by
    rw [← written_segments template]
    obtain ⟨before, after, split⟩ := List.append_of_mem member
    rw [split, List.flatMap_append, List.flatMap_cons, ← List.append_assoc]
    exact List.infix_append _ _ _
  cases isWritten_of_mem_segments member with
  | literal => exact ⟨_, rfl⟩
  | placeholder padded => exact absurd ⟨padded.inner, inside⟩ unmarked
  | @stray inner => exact absurd ⟨inner, inside⟩ unmarked

/-- The placeholders of a template are the ones that it is listed with. -/
theorem mem_placeholders_of_mem_segments {template name : String} {written : List Char}
    (member : .placeholder name written ∈ segments template) : name ∈ placeholders template := by
  have absent (literal : List Char) : .placeholder name written ∉ literalSegments literal := by
    simp [literalSegments]
  rcases List.mem_append.mp member with first | later
  · exact absurd first (absent _)
  · obtain ⟨⟨⟨found, spelled⟩, text⟩, held, inside⟩ := List.mem_flatMap.mp later
    rcases List.mem_cons.mp inside with same | inside
    · cases same
      rw [placeholders, Text.cut, Text.cutFrom_written, Text.Pieces.markers, List.map_map]
      exact List.mem_map.mpr ⟨_, held, rfl⟩
    · exact absurd inside (absent _)

end Template

end ActionGateway
