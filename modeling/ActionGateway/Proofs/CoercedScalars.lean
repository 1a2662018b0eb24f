import ActionGateway.Proofs.ReferenceTemplates
import ActionGateway.Proofs.WrittenDoubles

/-!
# Scalars that the text of a variable spells

Truth values and numbers can be spelled in more ways than one, and a value does not keep the way it
was spelled. Its own text is one of them: it stands for the same value again, so the text of a
variable comes through unchanged exactly when that is how a truth value or a number is written.
-/

namespace ActionGateway

namespace Literal

/-- An integer that is read has 64 bits with its sign. -/
theorem isSigned_of_signed? {text : List Char} {value : Int}
    (read : signed? 64 10 text = some value) : IsSigned value :=
  of_decide_eq_true (Option.filter_eq_some_iff.mp read).2

/-- An integer without a sign is read alike by both readers, while there is room for its sign. -/
theorem signed?_of_unsigned? {text : List Char} {number : Nat}
    (read : unsigned? 64 10 text = some number) (small : number < Nat.pow 2 63) :
    signed? 64 10 text = some (number : Int) := by
  have kept : (some (number : Int)).filter (fun value => decide (IsSigned value)) =
      some (number : Int) := by
    rw [Option.filter_some, if_pos (decide_eq_true (isSigned_natCast_iff.mpr small))]
  have digits := (Option.filter_eq_some_iff.mp read).1
  split at digits
  · rw [signed?, digits]
    exact kept
  · next plain =>
      unfold signed?
      split
      · next rest => exact (plain rest rfl).elim
      · rw [digits?_of_mem (c := '-') rfl List.mem_cons_self] at digits
        cases digits
      · rw [digits]
        exact kept

/-- A double that is read is in canonical form. -/
theorem canonical_of_real? {text : List Char} {value : Binary64} (read : real? text = some value) :
    value.Canonical := by
  have magnitude {negative : Bool} {digits : List Char}
      (read : magnitude? negative digits = some value) : value.Canonical := by
    unfold magnitude? at read
    dsimp only at read
    -- With a point and without one, the same follows.
    split at read
    all_goals
      split at read
      · cases read
      · split at read
        · cases read
        · exact Binary64.canonical_ofDecimal read
  unfold real? at read
  split at read
  · exact magnitude read
  · exact magnitude read
  · exact magnitude read

end Literal

/-! ## Texts of scalars -/

/-- **Text as a truth value or a number is written**: a word, an integer of 64 bits with its sign,
or the shortest decimal of a double. -/
inductive Json.IsScalarText : Json → String → Prop
  | ofTrue : IsScalarText (.bool true) "true"
  | ofFalse : IsScalarText (.bool false) "false"
  | ofInt {value : Int} (signed : Literal.IsSigned value) :
      IsScalarText (Json.ofInt value) (toString value)
  | ofReal {value : Binary64} (canonical : value.Canonical) :
      IsScalarText (.num (.real value)) (value.text numberStyle)

namespace Variables

open Json

variable {text : String} {value : Json}

theorem stringify_of_isScalarText (written : IsScalarText value text) : value.stringify = text := by
  cases written with
  | ofTrue => rfl
  | ofFalse => rfl
  | ofInt signed => exact String.ofList_toList
  | ofReal canonical => exact String.ofList_toList

/-- The text of a double opens nothing and is neither a word nor an integer. -/
theorem coerce_of_real {real : Binary64} (canonical : real.Canonical) :
    coerce (real.text numberStyle) = .num (.real real) := by
  have sign : numberStyle.positiveSign = "+" := rfl
  obtain ⟨written, spelled, rounded⟩ := Binary64.exists_written canonical sign
  obtain ⟨first, rest, shape, opens⟩ := written.signedText_eq_cons real.negative
  have apart (other : Char) (unlike : other ≠ '-') (wordy : other.isDigit = false) :
      first ≠ other := by
    rintro rfl
    rcases opens with sign | digit
    · exact unlike sign
    · exact absurd (wordy.symm.trans digit) Bool.false_ne_true
  have contained : container? (real.text numberStyle) = none := by
    unfold container?
    rw [spelled, shape]
    split
    · next same => exact (apart '\x7b' (by decide) rfl (List.cons.inj same).1).elim
    · next same => exact (apart '[' (by decide) rfl (List.cons.inj same).1).elim
    · rfl
  have scalar : scalar? (real.text numberStyle) = some (.num (.real real)) := by
    unfold scalar?
    split
    · next word =>
        have same := spelled.symm.trans (congrArg String.toList word)
        rw [shape] at same
        exact (apart 't' (by decide) rfl (List.cons.inj same).1).elim
    · next word =>
        have same := spelled.symm.trans (congrArg String.toList word)
        rw [shape] at same
        exact (apart 'f' (by decide) rfl (List.cons.inj same).1).elim
    · rw [spelled, written.signed?_signedText, written.real?_signedText, rounded]
      rfl
  rw [coerce, contained, scalar]
  rfl

/-- **A scalar is read back from its text.** -/
theorem coerce_of_isScalarText (written : IsScalarText value text) : coerce text = value := by
  cases written with
  | ofTrue => rfl
  | ofFalse => rfl
  | ofInt signed => exact (coerce_toString_eq_ofInt_iff _ _).mpr ⟨signed, rfl⟩
  | ofReal canonical => exact coerce_of_real canonical

/-- **A truth value or a number that a text spells** is one that has a text of its own. -/
theorem isScalarText_stringify (spelled : coerce text = value)
    (scalar : (∃ flag, value = .bool flag) ∨ ∃ number, value = .num number) :
    IsScalarText value value.stringify := by
  have self {other : String} (written : IsScalarText value other) :
      IsScalarText value value.stringify := by
    rw [stringify_of_isScalarText written]
    exact written
  have flat : value.isScalar = true := by
    rcases scalar with ⟨flag, rfl⟩ | ⟨number, rfl⟩ <;> rfl
  have given : (scalar? text).getD (.str text) = value := by
    rcases coerce_cases text with nested | same
    · rw [spelled, flat] at nested
      cases nested
    · exact same.symm.trans spelled
  unfold scalar? at given
  split at given
  · cases given
    exact self .ofTrue
  · cases given
    exact self .ofFalse
  · split at given
    · next integer read =>
        cases given
        exact self (.ofInt (Literal.isSigned_of_signed? read))
    · cases read : Literal.real? text.toList with
      | some real =>
          rw [read] at given
          cases given
          exact self (.ofReal (Literal.canonical_of_real? read))
      | none =>
          -- A text that spells nothing stays a string.
          rw [read] at given
          cases given
          rcases scalar with ⟨flag, same⟩ | ⟨number, same⟩ <;> cases same

/-- **Scalars of variables.** Where a variable or a fallback gives a truth value or a number, the
text of that value stands for the same value again. It is the text of the variable exactly when that
is written the way such values are. Other spellings lose no more than that: digits give the number
that they stand for. -/
theorem resolve_scalar_text (known : Variables) {reference : VariableReference}
    (writable : reference.Writable) (spelled : known.textOf reference = .ok text)
    (small : ∀ number, Literal.unsigned? 64 10 text.toList = some number → number < Nat.pow 2 63)
    (resolves : known.resolve (.str (String.ofList reference.text)) = .ok value)
    (scalar : (∃ flag, value = .bool flag) ∨ ∃ number, value = .num number) :
    (value.stringify = text ↔ ∃ written, IsScalarText written text) ∧
      coerce value.stringify = value ∧
      ∀ number, Literal.unsigned? 64 10 text.toList = some number → value = Json.ofNat number := by
  rw [known.resolve_written writable, spelled] at resolves
  have coerced : coerce text = value := Except.ok.inj resolves
  have own := isScalarText_stringify coerced scalar
  refine ⟨⟨?_, ?_⟩, coerce_of_isScalarText own, ?_⟩
  · intro same
    exact ⟨value, same ▸ own⟩
  · rintro ⟨other, written⟩
    obtain rfl : other = value := (coerce_of_isScalarText written).symm.trans coerced
    exact stringify_of_isScalarText written
  · intro number read
    have signed := Literal.signed?_of_unsigned? read (small number read)
    exact coerced.symm.trans ((coerce_eq_ofInt_iff text number).mpr signed)

/-- The variable that a number of identification is taken from. -/
def pinReference : VariableReference := ⟨"APP_PIN", none⟩

/-- Variables with one that is set to the text. -/
def pinVariables (text : String) : Variables :=
  ⟨defaultPrefixes, fun name => if name = "APP_PIN" then some text else none⟩

theorem resolve_scalar_text_pin :
    (pinVariables "+0042").resolve (.str (String.ofList pinReference.text)) =
        .ok (Json.ofInt 42) ∧
      (¬ ∃ written, IsScalarText written "+0042") ∧
      coerce "42" = Json.ofInt 42 ∧ Json.ofInt 42 = Json.ofNat 42 := by
  have writable : pinReference.Writable := by decide
  have spelled : (pinVariables "+0042").textOf pinReference = .ok "+0042" := by decide +kernel
  have read : Literal.unsigned? 64 10 "+0042".toList = some 42 := by decide
  have small : ∀ number, Literal.unsigned? 64 10 "+0042".toList = some number →
      number < Nat.pow 2 63 := by
    intro number same
    cases read.symm.trans same
    decide
  have resolves : (pinVariables "+0042").resolve (.str (String.ofList pinReference.text)) =
      .ok (Json.ofInt 42) := by decide +kernel
  obtain ⟨kept, again, same⟩ := resolve_scalar_text (pinVariables "+0042") writable spelled small
    resolves (.inr ⟨_, rfl⟩)
  have other : (Json.ofInt 42).stringify ≠ "+0042" := by decide +kernel
  exact ⟨resolves, mt kept.mpr other, again, same 42 read⟩

/-- Zeros in front of a number do not come through. -/
theorem leading_zeros_are_lost :
    pinReference.Writable ∧ (pinVariables "007").textOf pinReference = .ok "007" ∧
      (pinVariables "007").resolve (.str (String.ofList pinReference.text)) = .ok (Json.ofInt 7) ∧
      (Json.ofInt 7).stringify ≠ "007" := by
  refine ⟨by decide, by decide +kernel, by decide +kernel, by decide +kernel⟩

end Variables

end ActionGateway
