import ActionGateway.Json.Printer
import ActionGateway.Proofs.DecimalTexts
import ActionGateway.Proofs.ShortestTexts

/-!
# Doubles are read back from their text

A double is written as digits with a point or an exponent among them. Such a text is read as the
decimal that it spells, and that lies in the interval of the double.
-/

namespace ActionGateway

namespace Literal

/-- The digits of the reader are the decimal digits. -/
theorem isDigit_eq (c : Char) : isDigit c = c.isDigit := by
  rw [isDigit, Char.isDigit, Bool.eq_iff_iff]
  simp [Char.le_def]

theorem isDigit_of_mem_zeros (count : Nat) : ∀ c ∈ List.replicate count '0', isDigit c = true := by
  intro c member
  rw [List.eq_of_mem_replicate member]
  rfl

/-- Digits are taken up to what is no digit. -/
theorem span_isDigit {digits rest : List Char} (all : ∀ c ∈ digits, isDigit c = true)
    (stops : ∀ c after, rest = c :: after → isDigit c = false) :
    (digits ++ rest).span isDigit = (digits, rest) := by
  have taken : rest.takeWhile isDigit = [] ∧ rest.dropWhile isDigit = rest := by
    cases rest with
    | nil => exact ⟨rfl, rfl⟩
    | cons c after =>
        have other := stops c after rfl
        exact ⟨List.takeWhile_cons_of_neg (Bool.eq_false_iff.mp other),
          List.dropWhile_cons_of_neg (Bool.eq_false_iff.mp other)⟩
  rw [List.span_eq_takeWhile_dropWhile, List.takeWhile_append_of_pos all,
    List.dropWhile_append_of_pos all, taken.1, taken.2, List.append_nil]

/-- A text with a character that is no digit has no digits. -/
theorem digits?_of_mem {radix : Nat} {c : Char} (other : digit? radix c = none) {text : List Char}
    (member : c ∈ text) : digits? radix text = none := by
  have each : text.mapM (digit? radix) = none := by
    induction text with
    | nil => cases member
    | cons first rest ih =>
        rw [List.mapM_cons]
        rcases List.mem_cons.mp member with rfl | later
        · rw [other]
          rfl
        · rw [ih later]
          cases digit? radix first <;> rfl
  rw [digits?, each, Option.map_none, ite_self]

/-! ## The value of digits -/

/-- The value of digits, split anywhere. -/
theorem digitsValue_append (high low : List Char) :
    digitsValue (high ++ low) = digitsValue high * 10 ^ low.length + digitsValue low := by
  simp only [digitsValue, Digits.value_eq_foldl, List.map_append, List.foldl_append]
  rw [Digits.foldl_push, List.length_map]
  rfl

/-- The digits of a number have its value. -/
theorem digitsValue_toDigits (value : Nat) : digitsValue (Nat.toDigits 10 value) = value := by
  rw [digitsValue, Digits.value_eq_foldl, Json.Raw.foldl_push_toDigits]

theorem digitsValue_zeros (count : Nat) : digitsValue (List.replicate count '0') = 0 := by
  induction count with
  | zero => rfl
  | succ count ih =>
      rw [List.replicate_succ', digitsValue_append, ih]
      rfl

theorem digitsValue_append_zeros (digits : List Char) (count : Nat) :
    digitsValue (digits ++ List.replicate count '0') = digitsValue digits * 10 ^ count := by
  rw [digitsValue_append, digitsValue_zeros, List.length_replicate, Nat.add_zero]

theorem digitsValue_zeros_append (count : Nat) (digits : List Char) :
    digitsValue (List.replicate count '0' ++ digits) = digitsValue digits := by
  rw [digitsValue_append, digitsValue_zeros, Nat.zero_mul, Nat.zero_add]

end Literal

/-- Zeros at the end of the digits move the scale. -/
theorem Decimal.value_mul_pow (digits places : Nat) (scale : Int) :
    Decimal.value ⟨digits * 10 ^ places, scale - places⟩ = Decimal.value ⟨digits, scale⟩ := by
  have power : (10 : ℚ) ^ places ≠ 0 := pow_ne_zero _ (by norm_num)
  rw [value, value, zpow_sub₀ (by norm_num), zpow_natCast, Nat.cast_mul, Nat.cast_pow,
    Nat.cast_ofNat, mul_assoc, mul_div_cancel₀ _ power]

/-- **A decimal as it is written**: digits, perhaps a point and more digits, perhaps an exponent,
and at least one of the two. -/
structure WrittenDecimal where
  whole : List Char
  part : Option (List Char)
  mark : List Char
  exponent : Int
  whole_ne_nil : whole ≠ []
  whole_digits : ∀ c ∈ whole, Literal.isDigit c = true
  part_digits : ∀ c ∈ part.getD [], Literal.isDigit c = true
  marked : mark = [] ∨ ∃ rest, mark = 'e' :: rest
  spelled : Literal.exponent? mark = some exponent
  fractional : part = none → mark ≠ []

namespace WrittenDecimal

/-- The text of a written decimal. -/
def text (written : WrittenDecimal) : List Char :=
  written.whole ++ (written.part.elim [] ('.' :: ·) ++ written.mark)

/-- The decimal that a text spells. -/
def decimal (written : WrittenDecimal) : Decimal :=
  ⟨Literal.digitsValue (written.whole ++ written.part.getD []),
    written.exponent - (written.part.getD []).length⟩

/-- What is behind the digits of a decimal is no digit. -/
theorem mark_stops (written : WrittenDecimal) (c : Char) (after : List Char)
    (same : written.mark = c :: after) : Literal.isDigit c = false := by
  rcases written.marked with empty | ⟨rest, given⟩
  · rw [empty] at same
    cases same
  · rw [given] at same
    cases same
    rfl

/-- **A written decimal is read** as what it spells. -/
theorem magnitude?_text (written : WrittenDecimal) (negative : Bool) :
    Literal.magnitude? negative written.text =
      Binary64.ofDecimal negative written.decimal.digits written.decimal.scale := by
  obtain ⟨first, others, shape⟩ := List.exists_cons_of_ne_nil written.whole_ne_nil
  have filled : written.whole.isEmpty = false := by
    rw [shape]
    rfl
  unfold Literal.magnitude? text decimal
  cases given : written.part with
  | none =>
      have taken := Literal.span_isDigit written.whole_digits written.mark_stops
      have spelled := written.spelled
      simp only [Option.elim_none, List.nil_append, taken, filled, Bool.false_and,
        Bool.false_eq_true, ↓reduceIte, Option.getD_none]
      rcases written.marked with same | ⟨rest, same⟩
      · rw [same] at spelled ⊢
        simp only [spelled]
      · rw [same] at spelled ⊢
        split
        · next refused => exact (Option.some_ne_none _ (spelled.symm.trans refused)).elim
        · next read =>
            cases Option.some.inj (spelled.symm.trans read)
            rfl
  | some part =>
      have pointed : ∀ c after, '.' :: (part ++ written.mark) = c :: after →
          Literal.isDigit c = false := by
        rintro c after ⟨⟩
        rfl
      have partDigits : ∀ c ∈ part, Literal.isDigit c = true := by
        have digits := written.part_digits
        rw [given] at digits
        exact digits
      have taken := Literal.span_isDigit written.whole_digits pointed
      have takenPart := Literal.span_isDigit partDigits written.mark_stops
      simp only [Option.elim_some, List.cons_append, taken, takenPart, filled, Bool.false_and,
        Bool.false_eq_true, ↓reduceIte, written.spelled, Option.getD_some]

/-- The text with a minus sign in front of it for a negative number. -/
def signedText (written : WrittenDecimal) (negative : Bool) : List Char :=
  if negative then '-' :: written.text else written.text

theorem text_eq_cons (written : WrittenDecimal) :
    ∃ first rest, written.text = first :: rest ∧ first.isDigit = true := by
  obtain ⟨first, others, shape⟩ := List.exists_cons_of_ne_nil written.whole_ne_nil
  refine ⟨first, others ++ (written.part.elim [] ('.' :: ·) ++ written.mark), ?_, ?_⟩
  · rw [text, shape, List.cons_append]
  · rw [← Literal.isDigit_eq]
    exact written.whole_digits first (shape ▸ List.mem_cons_self)

theorem signedText_eq_cons (written : WrittenDecimal) (negative : Bool) :
    ∃ first rest, written.signedText negative = first :: rest ∧
      (first = '-' ∨ first.isDigit = true) := by
  cases negative with
  | true => exact ⟨'-', written.text, rfl, .inl rfl⟩
  | false =>
      obtain ⟨first, rest, shape, digit⟩ := written.text_eq_cons
      exact ⟨first, rest, shape, .inr digit⟩

/-- A point or the letter of an exponent keeps the text from being an integer. -/
theorem digits?_text (written : WrittenDecimal) : Literal.digits? 10 written.text = none := by
  cases given : written.part with
  | some part =>
      apply Literal.digits?_of_mem (c := '.') (by decide)
      rw [text, given]
      exact List.mem_append_right _ List.mem_cons_self
  | none =>
      obtain ⟨rest, mark⟩ := written.marked.resolve_left (written.fractional given)
      apply Literal.digits?_of_mem (c := 'e') (by decide)
      rw [text, given, mark]
      exact List.mem_append_right _ List.mem_cons_self

/-- A written decimal is never read as an integer. -/
theorem signed?_signedText (written : WrittenDecimal) (negative : Bool) :
    Literal.signed? 64 10 (written.signedText negative) = none := by
  have refused := written.digits?_text
  cases negative with
  | true =>
      rw [signedText, if_pos rfl, Literal.signed?, refused]
      rfl
  | false =>
      obtain ⟨first, rest, shape, digit⟩ := written.text_eq_cons
      rw [shape] at refused
      rw [signedText, if_neg Bool.false_ne_true, shape, Literal.signed?_of_isDigit digit, refused]
      rfl

/-- A written decimal is read as the double nearest to it. -/
theorem real?_signedText (written : WrittenDecimal) (negative : Bool) :
    Literal.real? (written.signedText negative) =
      Binary64.ofDecimal negative written.decimal.digits written.decimal.scale := by
  rw [← magnitude?_text]
  cases negative with
  | true => rfl
  | false =>
      obtain ⟨first, rest, shape, digit⟩ := written.text_eq_cons
      obtain ⟨plus, minus⟩ := Literal.ne_sign_of_isDigit digit
      rw [signedText, if_neg Bool.false_ne_true, shape]
      unfold Literal.real?
      split
      · next same => exact (plus (List.cons.inj same).1).elim
      · next same => exact (minus (List.cons.inj same).1).elim
      · rfl

/-! ## The layouts -/

/-- **Digits with a point** and no exponent. -/
def ofPoint (whole part : List Char) (filled : whole ≠ [])
    (whole_digits : ∀ c ∈ whole, Literal.isDigit c = true)
    (part_digits : ∀ c ∈ part, Literal.isDigit c = true) : WrittenDecimal where
  whole := whole
  part := some part
  mark := []
  exponent := 0
  whole_ne_nil := filled
  whole_digits := whole_digits
  part_digits := part_digits
  marked := .inl rfl
  spelled := rfl
  fractional := nofun

/-- **Scientific notation**: one digit, a point in front of further digits, and an exponent. -/
def ofExponent (first : Char) (rest : List Char) (exponent : Int)
    (digits : ∀ c ∈ first :: rest, Literal.isDigit c = true) : WrittenDecimal where
  whole := [first]
  part := if rest.isEmpty then none else some rest
  mark := 'e' :: ((if exponent < 0 then "-" else "+").toList ++ Nat.toDigits 10 exponent.natAbs)
  exponent := exponent
  whole_ne_nil := List.cons_ne_nil _ _
  whole_digits := by
    intro c member
    exact digits c (List.mem_cons.mpr (.inl (List.mem_singleton.mp member)))
  part_digits := by
    intro c member
    split_ifs at member
    · cases member
    · exact digits c (List.mem_cons_of_mem _ member)
  marked := .inr ⟨_, rfl⟩
  spelled := by
    have read := Literal.digits?_toDigits exponent.natAbs
    split_ifs with negative
    · change Literal.exponent? ('e' :: '-' :: Nat.toDigits 10 exponent.natAbs) = some exponent
      have opposite : -(exponent.natAbs : Int) = exponent := by omega
      rw [Literal.exponent?, if_pos (.inl rfl), read]
      exact congrArg some opposite
    · change Literal.exponent? ('e' :: '+' :: Nat.toDigits 10 exponent.natAbs) = some exponent
      have same : Int.ofNat exponent.natAbs = exponent := Int.natAbs_of_nonneg (by omega)
      rw [Literal.exponent?, if_pos (.inl rfl), read]
      exact congrArg some same
  fractional := fun _ => List.cons_ne_nil _ _

@[simp]
theorem text_ofPoint {whole part : List Char} (filled) (whole_digits) (part_digits) :
    (ofPoint whole part filled whole_digits part_digits).text = whole ++ '.' :: part := by
  simp only [text, ofPoint, Option.elim_some, List.append_nil]

@[simp]
theorem decimal_ofPoint {whole part : List Char} (filled) (whole_digits) (part_digits) :
    (ofPoint whole part filled whole_digits part_digits).decimal =
      ⟨Literal.digitsValue (whole ++ part), -part.length⟩ := by
  simp only [decimal, ofPoint, Option.getD_some, zero_sub]

@[simp]
theorem text_ofExponent {first : Char} {rest : List Char} {exponent : Int} (digits) :
    (ofExponent first rest exponent digits).text =
      first :: ((if rest.isEmpty then [] else '.' :: rest) ++
        'e' :: ((if exponent < 0 then "-" else "+").toList ++
          (toString exponent.natAbs).toList)) := by
  cases rest with
  | nil => simp only [text, ofExponent, List.isEmpty_nil, ↓reduceIte, Option.elim_none,
      List.nil_append, List.cons_append, Nat.toString_eq_repr, Nat.toList_repr]
  | cons second rest => simp only [text, ofExponent, List.isEmpty_cons, Bool.false_eq_true,
      ↓reduceIte, Option.elim_some, List.nil_append, List.cons_append, Nat.toString_eq_repr,
      Nat.toList_repr]

@[simp]
theorem decimal_ofExponent {first : Char} {rest : List Char} {exponent : Int} (digits) :
    (ofExponent first rest exponent digits).decimal =
      ⟨Literal.digitsValue (first :: rest), exponent - rest.length⟩ := by
  cases rest with
  | nil => rfl
  | cons second rest => rfl

end WrittenDecimal

/-- **The text spells the decimal**: it is a written decimal of the same value. -/
def Decimal.IsSpelledBy (decimal : Decimal) (text : List Char) : Prop :=
  ∃ written : WrittenDecimal, text = written.text ∧ written.decimal.value = decimal.value

namespace Decimal

open WrittenDecimal

variable {decimal : Decimal} {spelled : List Char}

section Layouts

variable (digits : ∀ c ∈ spelled, Literal.isDigit c = true)
  (valued : Literal.digitsValue spelled = decimal.digits)

include digits valued

/-- Zeros up to the point. -/
theorem isSpelledBy_whole (filled : spelled ≠ []) (whole : 0 ≤ decimal.scale) :
    decimal.IsSpelledBy (spelled ++ List.replicate decimal.scale.toNat '0' ++ ['.', '0']) := by
  have zeros := Literal.isDigit_of_mem_zeros
  have shifted : Literal.digitsValue (spelled ++ List.replicate decimal.scale.toNat '0' ++ ['0']) =
      decimal.digits * 10 ^ (decimal.scale.toNat + 1) := by
    rw [List.append_assoc, ← List.replicate_succ', Literal.digitsValue_append_zeros, valued]
  have scale : -((['0'].length : Nat) : Int) = decimal.scale - (decimal.scale.toNat + 1 : Nat) := by
    rw [List.length_singleton]
    omega
  refine ⟨ofPoint (spelled ++ List.replicate decimal.scale.toNat '0') ['0']
    (List.append_ne_nil_of_left_ne_nil filled _) (List.forall_mem_append.mpr ⟨digits, zeros _⟩)
    (zeros 1), ?_, ?_⟩
  · rw [text_ofPoint]
  · rw [decimal_ofPoint, shifted, scale, value_mul_pow]

/-- The point among the digits. -/
theorem isSpelledBy_inside {point : Nat} (filled : spelled ≠ []) (positive : 0 < point)
    (placed : point = spelled.length + decimal.scale) (inside : decimal.scale < 0) :
    decimal.IsSpelledBy (spelled.take point ++ '.' :: spelled.drop point) := by
  have first : spelled.take point ≠ [] := by
    rw [Ne, List.take_eq_nil_iff]
    rintro (none | empty)
    · exact positive.ne' none
    · exact filled empty
  have scale : -((spelled.drop point).length : Int) = decimal.scale := by
    rw [List.length_drop]
    omega
  refine ⟨ofPoint (spelled.take point) (spelled.drop point) first
    (fun c member => digits c (List.mem_of_mem_take member))
    (fun c member => digits c (List.mem_of_mem_drop member)), ?_, ?_⟩
  · rw [text_ofPoint]
  · rw [decimal_ofPoint, List.take_append_drop, valued, scale]

/-- Zeros behind the point. -/
theorem isSpelledBy_small {zeros : Nat} (placed : -(zeros : Int) = spelled.length + decimal.scale) :
    decimal.IsSpelledBy ('0' :: '.' :: (List.replicate zeros '0' ++ spelled)) := by
  have blank := Literal.isDigit_of_mem_zeros
  have same : Literal.digitsValue (['0'] ++ (List.replicate zeros '0' ++ spelled)) =
      decimal.digits := by
    rw [← List.append_assoc, List.singleton_append, ← List.replicate_succ,
      Literal.digitsValue_zeros_append, valued]
  have scale : -((List.replicate zeros '0' ++ spelled).length : Int) = decimal.scale := by
    rw [List.length_append, List.length_replicate]
    omega
  refine ⟨ofPoint ['0'] (List.replicate zeros '0' ++ spelled) (List.cons_ne_nil _ _) (blank 1)
    (List.forall_mem_append.mpr ⟨blank _, digits⟩), ?_, ?_⟩
  · rw [text_ofPoint]
    rfl
  · rw [decimal_ofPoint, same, scale]

end Layouts

/-- One digit in front of the point, and an exponent. -/
theorem isSpelledBy_scientific {first : Char} {rest : List Char} {exponent : Int}
    (digits : ∀ c ∈ first :: rest, Literal.isDigit c = true)
    (valued : Literal.digitsValue (first :: rest) = decimal.digits)
    (placed : exponent = (first :: rest).length + decimal.scale - 1) :
    decimal.IsSpelledBy (first :: ((if rest.isEmpty then [] else '.' :: rest) ++
      'e' :: ((if exponent < 0 then "-" else "+").toList ++
        (toString exponent.natAbs).toList))) := by
  have scale : exponent - rest.length = decimal.scale := by
    rw [placed, List.length_cons, Nat.cast_succ]
    omega
  refine ⟨ofExponent first rest exponent digits, ?_, ?_⟩
  · rw [text_ofExponent]
  · rw [decimal_ofExponent, valued, scale]

/-- **What a decimal is written as** spells it. -/
theorem isSpelledBy_write {style : Binary64.Style} (sign : style.positiveSign = "+")
    (decimal : Decimal) : decimal.IsSpelledBy (style.write decimal).toList := by
  have digits : ∀ c ∈ Nat.toDigits 10 decimal.digits, Literal.isDigit c = true := by
    intro c member
    rw [Literal.isDigit_eq]
    exact Literal.isDigit_of_mem_toDigits c member
  have filled : Nat.toDigits 10 decimal.digits ≠ [] := Nat.toDigits_ne_nil
  have valued := Literal.digitsValue_toDigits decimal.digits
  unfold Binary64.Style.write
  rw [sign]
  dsimp only
  generalize Nat.toDigits 10 decimal.digits = spelled at *
  split
  · obtain ⟨first, rest, rfl⟩ := List.exists_cons_of_ne_nil filled
    have scientific := isSpelledBy_scientific digits valued rfl
    simp only [String.toList_append, String.toList_ofList, List.append_assoc]
    cases rest with
    | nil => exact scientific
    | cons second rest => exact scientific
  · split_ifs with whole inside
    · rw [String.toList_ofList]
      exact isSpelledBy_whole digits valued filled whole
    · rw [String.toList_ofList]
      exact isSpelledBy_inside digits valued filled (by omega) (by omega) (by omega)
    · rw [String.toList_ofList]
      exact isSpelledBy_small digits valued (by omega)

end Decimal

namespace Binary64

variable {value : Binary64} {style : Style}

/-- A canonical double without a significand is zero. -/
theorem eq_zero_of_significand (canonical : value.Canonical) (nothing : value.significand = 0) :
    value = zero value.negative := by
  have least := canonical.normal (nothing ▸ Nat.pow_pos two_pos)
  rw [zero, ← least, ← nothing]

/-- **The text of a double** spells a decimal that is rounded to the double. -/
theorem exists_written (canonical : value.Canonical) (sign : style.positiveSign = "+") :
    ∃ written : WrittenDecimal, (value.text style).toList = written.signedText value.negative ∧
      ofDecimal value.negative written.decimal.digits written.decimal.scale = some value := by
  have signed (magnitude : String) (written : WrittenDecimal)
      (same : magnitude.toList = written.text) :
      (if value.negative then "-" ++ magnitude else magnitude).toList =
        written.signedText value.negative := by
    rw [WrittenDecimal.signedText, ← same]
    split_ifs
    · rw [String.toList_append]
      rfl
    · rfl
  unfold text
  dsimp only
  rcases Nat.eq_zero_or_pos value.significand with nothing | positive
  · have zeros := Literal.isDigit_of_mem_zeros 1
    refine ⟨.ofPoint ['0'] ['0'] (List.cons_ne_nil _ _) zeros zeros, signed _ _ ?_, ?_⟩
    · rw [if_pos nothing]
      rfl
    · have same := eq_zero_of_significand canonical nothing
      rw [WrittenDecimal.decimal_ofPoint, same]
      rfl
  · obtain ⟨written, spelled, exact_value⟩ := Decimal.isSpelledBy_write sign value.shortest
    refine ⟨written, signed _ _ ?_, ?_⟩
    · rw [if_neg positive.ne', spelled]
    · have contained := contains_shortest canonical positive
      rw [← exact_value] at contained
      exact ofDecimal_of_contains value.negative canonical positive contained

end Binary64

end ActionGateway
