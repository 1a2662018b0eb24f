import ActionGateway.Template.Marker

/-!
# Looking for markers

A text has a marker where double opening braces are followed, right away or later on, by double
closing ones. One reading of the text from left to right tells whether it has one, and what matters
of the text read so far is one of five things. Characters other than braces only break up pairs of
braces, so any number of them does what one blank does.
-/

namespace ActionGateway.Template

/-- **The text has a marker.** -/
def HasMarker (text : List Char) : Prop :=
  ∃ inner, ['\x7b', '\x7b'] ++ inner ++ ['\x7d', '\x7d'] <:+: text

/-- The text has double closing braces. -/
def HasClosing (text : List Char) : Prop :=
  ['\x7d', '\x7d'] <:+: text

/-- There is no brace in the text. -/
def IsPlain (text : List Char) : Prop :=
  ∀ c ∈ text, isNameChar c = true

instance (text : List Char) : Decidable (IsPlain text) := List.decidableBAll _ text

/-- The empty text closes no marker. -/
theorem not_hasClosing_nil : ¬ HasClosing [] := by
  intro closing
  exact nomatch List.infix_nil.mp closing

/-- A closing is at the start of a text or behind its first character. -/
theorem hasClosing_cons_iff (c : Char) (rest : List Char) :
    HasClosing (c :: rest) ↔ (c = '\x7d' ∧ rest.head? = some '\x7d') ∨ HasClosing rest := by
  unfold HasClosing
  rw [List.infix_cons_iff]
  refine or_congr_left ?_
  cases rest with
  | nil =>
      simp only [List.cons_prefix_cons, List.prefix_nil, reduceCtorEq, and_false, List.head?_nil]
  | cons d rest =>
      simp only [List.cons_prefix_cons, List.nil_prefix, and_true, List.head?_cons,
        Option.some.injEq, eq_comm (a := '\x7d')]

/-- The empty text holds no marker. -/
theorem not_hasMarker_nil : ¬ HasMarker [] := by
  rintro ⟨inner, marker⟩
  exact nomatch List.infix_nil.mp marker

/-- A marker is at the start of a text or farther on. -/
theorem hasMarker_cons_iff (c : Char) (rest : List Char) :
    HasMarker (c :: rest) ↔
      (c = '\x7b' ∧ ∃ later, rest = '\x7b' :: later ∧ HasClosing later) ∨ HasMarker rest := by
  constructor
  · rintro ⟨inner, marker⟩
    rcases List.infix_cons_iff.mp marker with ⟨after, split⟩ | farther
    · simp only [List.cons_append, List.nil_append, List.append_assoc, List.cons.injEq] at split
      obtain ⟨rfl, rfl⟩ := split
      have closed : HasClosing (inner ++ '\x7d' :: '\x7d' :: after) :=
        ⟨inner, after, List.append_assoc inner ['\x7d', '\x7d'] after⟩
      exact .inl ⟨rfl, _, rfl, closed⟩
    · exact .inr ⟨inner, farther⟩
  · rintro (⟨rfl, later, rfl, inner, after, split⟩ | ⟨inner, farther⟩)
    · refine ⟨inner, List.infix_cons_iff.mpr (.inl ⟨after, ?_⟩)⟩
      rw [← split]
      simp only [List.cons_append, List.nil_append]
    · exact ⟨inner, List.infix_cons_iff.mpr (.inr farther)⟩

/-- Every marker is closed. -/
theorem HasMarker.hasClosing {text : List Char} (marker : HasMarker text) : HasClosing text := by
  obtain ⟨inner, found⟩ := marker
  exact (List.suffix_append _ _).isInfix.trans found

/-! ## Reading from left to right -/

/-- What matters of the text read so far. -/
inductive Scan where
  | outside
  /-- One opening brace was read last. -/
  | opening
  | inside
  /-- One closing brace was read last, after double opening ones. -/
  | closing
  | found
  deriving DecidableEq, Repr

namespace Scan

/-- One character further. -/
def next : Scan → Char → Scan
  | outside, c => if c = '\x7b' then opening else outside
  | opening, c => if c = '\x7b' then inside else outside
  | inside, c => if c = '\x7d' then closing else inside
  | closing, c => if c = '\x7d' then found else inside
  | found, _ => found

/-- What a text has to have for a marker to be found by its end. -/
def Needs : Scan → List Char → Prop
  | outside, text => HasMarker text
  | opening, text => (∃ later, text = '\x7b' :: later ∧ HasClosing later) ∨ HasMarker text
  | inside, text => HasClosing text
  | closing, text => text.head? = some '\x7d' ∨ HasClosing text
  | found, _ => True

/-- At the end of a text the scan has to have found a marker. -/
theorem needs_nil_iff (scan : Scan) : scan.Needs [] ↔ scan = found := by
  cases scan with
  | outside => exact iff_of_false not_hasMarker_nil nofun
  | opening =>
      refine iff_of_false ?_ nofun
      rintro (⟨later, ⟨⟩, -⟩ | marker)
      exact not_hasMarker_nil marker
  | inside => exact iff_of_false not_hasClosing_nil nofun
  | closing =>
      refine iff_of_false ?_ nofun
      rintro (atStart | closed)
      · exact nomatch atStart
      · exact not_hasClosing_nil closed
  | found => exact iff_of_true trivial rfl

/-- **Reading one character** leaves to the rest of the text what is still needed. -/
theorem needs_cons_iff (scan : Scan) (c : Char) (rest : List Char) :
    scan.Needs (c :: rest) ↔ (scan.next c).Needs rest := by
  cases scan with
  | outside =>
      by_cases opens : c = '\x7b'
      · simp only [Needs, next, opens, ↓reduceIte, hasMarker_cons_iff, true_and]
      · simp only [Needs, next, opens, ↓reduceIte, hasMarker_cons_iff, false_and, false_or]
  | opening =>
      by_cases opens : c = '\x7b'
      · subst opens
        have needed : HasMarker ('\x7b' :: rest) → HasClosing rest := by
          intro marker
          have closed := (hasClosing_cons_iff _ _).mp marker.hasClosing
          rcases closed with ⟨⟨⟩, -⟩ | closed
          exact closed
        simp only [Needs, next, ↓reduceIte, List.cons.injEq, true_and, exists_eq_left']
        exact or_iff_left_of_imp needed
      · simp only [Needs, next, opens, ↓reduceIte, List.cons.injEq, false_and, exists_false,
          hasMarker_cons_iff, false_or]
  | inside =>
      by_cases closes : c = '\x7d'
      · simp only [Needs, next, closes, ↓reduceIte, hasClosing_cons_iff, true_and]
      · simp only [Needs, next, closes, ↓reduceIte, hasClosing_cons_iff, false_and, false_or]
  | closing =>
      by_cases closes : c = '\x7d'
      · simp only [Needs, next, closes, ↓reduceIte, List.head?_cons, true_or]
      · simp only [Needs, next, closes, ↓reduceIte, List.head?_cons, Option.some.injEq, false_or,
          hasClosing_cons_iff, false_and]
  | found => exact Iff.rfl

/-- What a scan needs is that going through the text finds a marker. -/
theorem needs_iff_foldl (scan : Scan) (text : List Char) :
    scan.Needs text ↔ text.foldl next scan = found := by
  induction text generalizing scan with
  | nil => exact needs_nil_iff scan
  | cons c rest ih => rw [needs_cons_iff, ih, List.foldl_cons]

/-- A character of a name does to the scan what a blank does. -/
theorem next_eq_next_blank (scan : Scan) {c : Char} (plain : isNameChar c = true) :
    scan.next c = scan.next ' ' := by
  simp only [isNameChar, Bool.and_eq_true, bne_iff_ne, ne_eq] at plain
  obtain ⟨opens, closes⟩ := plain
  cases scan <;> simp only [next, opens, closes, ↓reduceIte, Char.reduceEq]

/-- A second blank changes nothing. -/
theorem next_next_blank (scan : Scan) : (scan.next ' ').next ' ' = scan.next ' ' := by
  cases scan <;> rfl

/-- **Text without braces does what a blank does.** -/
theorem foldl_plain (scan : Scan) {text : List Char} (plain : IsPlain text) (some_ : text ≠ []) :
    text.foldl next scan = scan.next ' ' := by
  induction text generalizing scan with
  | nil => exact absurd rfl some_
  | cons c rest ih =>
      obtain ⟨own, others⟩ := List.forall_mem_cons.mp plain
      rw [List.foldl_cons, next_eq_next_blank scan own]
      by_cases last : rest = []
      · rw [last]
        rfl
      · rw [ih _ others last, next_next_blank]

end Scan

/-- A text holds a marker just when the scan of it finds one. -/
theorem hasMarker_iff_foldl (text : List Char) :
    HasMarker text ↔ text.foldl Scan.next .outside = .found :=
  Scan.needs_iff_foldl .outside text

/-- A plain text holds no marker. -/
theorem IsPlain.not_hasMarker {text : List Char} (plain : IsPlain text) : ¬ HasMarker text := by
  rw [hasMarker_iff_foldl]
  by_cases nothing : text = []
  · rw [nothing]
    decide
  · rw [Scan.foldl_plain .outside plain nothing]
    decide

end ActionGateway.Template
