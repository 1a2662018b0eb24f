import ActionGateway.Text.Blank
import Mathlib.Data.List.DropRight

/-!
# Stripped text

Characters of one kind are taken off both ends of a text: blank ones when it is trimmed, quotes when
it is unquoted. What is left is its core. A text is its core with characters of that kind around it,
and a text has one core only.
-/

namespace ActionGateway.Text

variable {kind : Char → Bool}

/-- The characters without those of a kind at either end. -/
def strip (kind : Char → Bool) (text : List Char) : List Char :=
  (text.dropWhile kind).rdropWhile kind

/-- Characters of the kind around a text are stripped with its own. -/
theorem strip_append {before after : List Char} (around : ∀ c ∈ before ++ after, kind c = true)
    (text : List Char) : strip kind (before ++ text ++ after) = strip kind text := by
  obtain ⟨aroundBefore, aroundAfter⟩ := List.forall_mem_append.mp around
  have ending (rest : List Char) : (rest ++ after).rdropWhile kind = rest.rdropWhile kind := by
    have turned : ∀ c ∈ after.reverse, kind c = true := fun c member =>
      aroundAfter c (List.mem_reverse.mp member)
    rw [List.rdropWhile, List.reverse_append, List.dropWhile_append_of_pos turned, List.rdropWhile]
  rw [List.append_assoc, strip, List.dropWhile_append_of_pos aroundBefore, List.dropWhile_append]
  split
  · rename_i nothing
    rw [List.dropWhile_eq_nil_iff.mpr aroundAfter, strip, List.isEmpty_iff.mp nothing]
  · exact ending _

/-- A text is its core and what was stripped from around it. -/
theorem exists_append_strip (kind : Char → Bool) (text : List Char) :
    ∃ before after, (∀ c ∈ before ++ after, kind c = true) ∧
      text = before ++ strip kind text ++ after := by
  refine ⟨text.takeWhile kind, (text.dropWhile kind).rtakeWhile kind, ?_, ?_⟩
  · intro c member
    rcases List.mem_append.mp member with early | late
    · exact List.mem_takeWhile_imp early
    · exact List.mem_rtakeWhile_imp late
  · rw [List.append_assoc, strip, List.rdropWhile_append_rtakeWhile,
      List.takeWhile_append_dropWhile]

/-- Stripping twice is stripping once. -/
theorem strip_strip (text : List Char) : strip kind (strip kind text) = strip kind text := by
  obtain ⟨before, after, around, whole⟩ := exists_append_strip kind text
  have stripped := strip_append around (strip kind text)
  rw [← whole] at stripped
  exact stripped.symm

/-- A change of characters that keeps their kind can be made before or after. -/
theorem map_strip {change : Char → Char} (keeps : ∀ c, kind (change c) = kind c)
    (text : List Char) : (strip kind text).map change = strip kind (text.map change) := by
  have same : kind ∘ change = kind := funext keeps
  have dropped (rest : List Char) :
      (rest.dropWhile kind).map change = (rest.map change).dropWhile kind := by
    rw [List.dropWhile_map, same]
  rw [strip, strip, List.rdropWhile, List.rdropWhile, List.map_reverse, dropped, List.map_reverse,
    dropped]

/-- **A text and its core**: there are characters of the kind around it, and none at its ends. -/
structure IsCore (kind : Char → Bool) (text core : List Char) : Prop where
  around : ∃ before after, (∀ c ∈ before ++ after, kind c = true) ∧ text = before ++ core ++ after
  first : ∀ c ∈ core.head?, kind c = false
  last : ∀ c ∈ core.getLast?, kind c = false

/-- The core of a text is what stripping leaves. -/
theorem isCore_iff {text core : List Char} : IsCore kind text core ↔ strip kind text = core := by
  constructor
  · rintro ⟨⟨before, after, around, rfl⟩, first, last⟩
    have kept : core.dropWhile kind = core := by
      cases core with
      | nil => rfl
      | cons c rest => exact List.dropWhile_cons_of_neg (Bool.eq_false_iff.mp (first c rfl))
    rw [strip_append around, strip, kept, List.rdropWhile_eq_self_iff]
    intro nonempty
    rw [last _ (List.getLast?_eq_some_getLast nonempty)]
    exact Bool.false_ne_true
  · rintro rfl
    refine ⟨exists_append_strip kind text, ?_, ?_⟩
    · intro c found
      have start : strip kind text <+: text.dropWhile kind := List.rdropWhile_prefix kind _
      have unstripped := List.head?_dropWhile_not kind text
      obtain ⟨rest, split⟩ := List.head?_eq_some_iff.mp found
      obtain ⟨after, whole⟩ := split ▸ start
      rw [← whole] at unstripped
      exact unstripped
    · intro c found
      obtain ⟨nonempty, rfl⟩ := List.mem_getLast?_eq_getLast found
      exact Bool.eq_false_iff.mpr (List.rdropWhile_last_not kind _ nonempty)

/-! ## Trimmed text -/

/-- Trimming strips blanks. -/
theorem trim_eq_strip (text : List Char) : trim text = strip isBlank text := rfl

/-- Blank space around a text is trimmed with its own. -/
theorem trim_padded {before after : List Char} (blank : ∀ c ∈ before ++ after, isBlank c = true)
    (text : List Char) : trim (before ++ text ++ after) = trim text :=
  strip_append blank text

/-- Trimming twice is trimming once. -/
theorem trim_trim (text : List Char) : trim (trim text) = trim text := strip_strip text

end ActionGateway.Text
