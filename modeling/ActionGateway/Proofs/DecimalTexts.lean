import ActionGateway.Proofs.WrittenJson
import ActionGateway.Variables.Resolution
import ActionGateway.Yaml.Value

/-!
# Integers as decimal text

The decimal text of an integer is read by three readers: the one for JSON, the one for plain scalars
of YAML, and the one for the text of a variable. The first two admit every integer of 64 bits, with
or without a sign; the last one only those with a sign, so it takes the upper half of the unsigned
integers for something else.
-/

namespace ActionGateway

namespace Literal

/-! ## Digits -/

/-- A decimal digit has its value. -/
theorem digit?_of_isDigit {c : Char} (digit : c.isDigit = true) :
    digit? 10 c = some (c.toNat - 48) := by
  have range : '0' ≤ c ∧ c ≤ '9' := by simpa [Char.isDigit, Char.le_def] using digit
  have high : c.toNat ≤ 57 := UInt32.le_iff_toNat_le.mp range.2
  rw [digit?, if_pos range, Option.filter_some, if_pos (decide_eq_true (by omega))]

/-- Decimal digits are read from the first to the last. -/
theorem digits?_of_isDigit {text : List Char} (written : text ≠ [])
    (digits : ∀ c ∈ text, c.isDigit = true) :
    digits? 10 text = some ((text.map fun c => c.toNat - 48).foldl (Digits.push 10) 0) := by
  have each : text.mapM (digit? 10) = some (text.map fun c => c.toNat - 48) := by
    clear written
    induction text with
    | nil => rfl
    | cons c rest ih =>
        obtain ⟨own, digits⟩ := List.forall_mem_cons.mp digits
        rw [List.mapM_cons, digit?_of_isDigit own, ih digits]
        rfl
  rw [digits?, if_neg (by simpa using written), each, Option.map_some, Digits.value_eq_foldl]

/-- A number is written in decimal digits. -/
theorem isDigit_of_mem_toDigits {value : Nat} : ∀ c ∈ Nat.toDigits 10 value, c.isDigit = true :=
  fun _ member => Nat.isDigit_of_mem_toDigits (by decide) (by decide) member

/-- The digits of a number are read as the number. -/
theorem digits?_toDigits (value : Nat) : digits? 10 (Nat.toDigits 10 value) = some value := by
  rw [digits?_of_isDigit Nat.toDigits_ne_nil isDigit_of_mem_toDigits,
    Json.Raw.foldl_push_toDigits]

/-- A digit is no sign. -/
theorem ne_sign_of_isDigit {c : Char} (digit : c.isDigit = true) : c ≠ '+' ∧ c ≠ '-' := by
  constructor
  · rintro rfl
    exact absurd digit (by decide)
  · rintro rfl
    exact absurd digit (by decide)

/-! ## Integers of 64 bits -/

/-- An integer that fits 64 bits together with its sign. -/
def IsSigned (value : Int) : Prop :=
  -(Nat.pow 2 63 : Int) ≤ value ∧ value < (Nat.pow 2 63 : Int)

instance (value : Int) : Decidable (IsSigned value) :=
  inferInstanceAs (Decidable (_ ∧ _))

/-- A natural number fits 64 bits with a sign below 2 to the 63. -/
theorem isSigned_natCast_iff {number : Nat} : IsSigned (number : Int) ↔ number < Nat.pow 2 63 :=
  ⟨fun signed => Int.ofNat_lt.mp signed.2,
    fun small => ⟨Int.le_trans (by decide) (Int.natCast_nonneg number), Int.ofNat_lt.mpr small⟩⟩

/-- Text that starts with a digit has no sign to take off. -/
theorem signed?_of_isDigit {first : Char} {rest : List Char} (digit : first.isDigit = true) :
    signed? 64 10 (first :: rest) =
      ((digits? 10 (first :: rest)).map Int.ofNat).filter fun value => decide (IsSigned value) := by
  obtain ⟨plus, minus⟩ := ne_sign_of_isDigit digit
  unfold signed?
  split
  · next same => exact (plus (List.cons.inj same).1).elim
  · next same => exact (minus (List.cons.inj same).1).elim
  · rfl

/-- **The text of an integer** is read as the integer exactly when that fits with its sign. -/
theorem signed?_toString (value : Int) :
    signed? 64 10 (toString value).toList = if IsSigned value then some value else none := by
  have bounded : signed? 64 10 (toString value).toList =
      (some value).filter fun value => decide (IsSigned value) := by
    cases value with
    | ofNat magnitude =>
        have read := digits?_toDigits magnitude
        obtain ⟨first, rest, shape⟩ :=
          List.exists_cons_of_ne_nil (Nat.toDigits_ne_nil (n := magnitude) (b := 10))
        have digit := isDigit_of_mem_toDigits first (shape ▸ List.mem_cons_self)
        rw [shape] at read
        rw [Json.Raw.toList_toString_ofNat, shape, signed?_of_isDigit digit, read]
        rfl
    | negSucc less =>
        rw [Json.Raw.toList_toString_negSucc, signed?, digits?_toDigits]
        rfl
  rw [bounded, Option.filter_some]
  simp only [decide_eq_true_eq]

end Literal

/-! ## Text that opens an array or an object -/

namespace Json

namespace Raw

/-- Reading items ends in an array. -/
theorem exists_arr_of_readItems {items : List Raw} {fuel : Nat} {bytes rest : Bytes} {raw : Raw}
    (read : readItems items fuel bytes = some (raw, rest)) : ∃ others, raw = .arr others := by
  induction fuel generalizing items bytes with
  | zero => cases read
  | succ fuel ih =>
      rw [readItems] at read
      split at read
      · cases read
      · split at read
        · exact ih read
        · cases read
          exact ⟨_, rfl⟩
        · cases read

/-- Reading fields ends in an object. -/
theorem exists_obj_of_readFields {fields : List (Option String × Raw)} {fuel : Nat}
    {bytes rest : Bytes} {raw : Raw} (read : readFields fields fuel bytes = some (raw, rest)) :
    ∃ others, raw = .obj others := by
  induction fuel generalizing fields bytes with
  | zero => cases read
  | succ fuel ih =>
      rw [readFields] at read
      split at read
      · split at read
        · cases read
        · split at read
          · split at read
            · cases read
            · split at read
              · exact ih read
              · cases read
                exact ⟨_, rfl⟩
              · cases read
          · cases read
      · cases read

theorem readValue_bracket (fuel : Nat) (bytes : Bytes) :
    readValue (fuel + 1) (0x5B :: bytes) = match skipBlank bytes with
      | 0x5D :: rest => some (.arr [], rest)
      | rest => readItems [] fuel rest :=
  rfl

theorem readValue_brace (fuel : Nat) (bytes : Bytes) :
    readValue (fuel + 1) (0x7B :: bytes) = match skipBlank bytes with
      | 0x7D :: rest => some (.obj [], rest)
      | rest => readFields [] fuel rest :=
  rfl

/-- What a bracket or a brace opens is an array or an object. -/
theorem nested_of_readValue_opening {fuel : Nat} {first : UInt8} {bytes rest : Bytes} {raw : Raw}
    (opens : first = 0x5B ∨ first = 0x7B)
    (read : readValue fuel (first :: bytes) = some (raw, rest)) :
    (∃ items, raw = .arr items) ∨ ∃ fields, raw = .obj fields := by
  cases fuel with
  | zero => cases read
  | succ fuel =>
      rcases opens with rfl | rfl
      · left
        rw [readValue_bracket] at read
        split at read
        · cases read
          exact ⟨_, rfl⟩
        · exact exists_arr_of_readItems read
      · right
        rw [readValue_brace] at read
        split at read
        · cases read
          exact ⟨_, rfl⟩
        · exact exists_obj_of_readFields read

/-- Arrays and objects are no scalars. -/
theorem isScalar_of_nested {room : Nat} {raw : Raw} {value : Json}
    (nested : (∃ items, raw = .arr items) ∨ ∃ fields, raw = .obj fields)
    (given : raw.value? room = some value) : value.isScalar = false := by
  cases room with
  | zero => rcases nested with ⟨items, rfl⟩ | ⟨fields, rfl⟩ <;> cases given
  | succ room =>
      rcases nested with ⟨items, rfl⟩ | ⟨fields, rfl⟩
      · obtain ⟨values, -, rfl⟩ := Option.map_eq_some_iff.mp given
        rfl
      · obtain ⟨values, -, rfl⟩ := Option.map_eq_some_iff.mp given
        rfl

end Raw

/-- What a bracket or a brace opens is no scalar. -/
theorem isScalar_of_ofText?_opening {text : String} {first : Char} {chars : List Char}
    (opens : first = '[' ∨ first = '\x7b') (start : text.toList = first :: chars) {value : Json}
    (read : ofText? text = some value) : value.isScalar = false := by
  have bytes : ∃ byte, (byte = 0x5B ∨ byte = 0x7B) ∧
      Bytes.ofText text = byte :: Bytes.ofChars chars := by
    have shape : Bytes.ofText text = String.utf8EncodeChar first ++ Bytes.ofChars chars := by
      rw [← Bytes.ofChars_cons, ← start, ← Bytes.ofText_ofList, String.ofList_toList]
    rcases opens with rfl | rfl
    · exact ⟨_, .inl rfl, shape⟩
    · exact ⟨_, .inr rfl, shape⟩
  obtain ⟨byte, opens, bytes⟩ := bytes
  obtain ⟨raw, grammatical, given⟩ := Option.bind_eq_some_iff.mp read
  rw [bytes, Raw.ofBytes?] at grammatical
  split at grammatical
  · next found =>
      obtain ⟨-, same⟩ := Option.ite_none_right_eq_some.mp grammatical
      cases same
      exact Raw.isScalar_of_nested (Raw.nested_of_readValue_opening opens found) given
  · cases grammatical

end Json

namespace Variables

/-! ## What the text of a variable spells -/

/-- A text that is read as a container gives no scalar. -/
theorem isScalar_of_container? {text : String} {value : Json}
    (contained : container? text = some value) : value.isScalar = false := by
  unfold container? at contained
  split at contained
  · next start => exact Json.isScalar_of_ofText?_opening (.inr rfl) start contained
  · next start => exact Json.isScalar_of_ofText?_opening (.inl rfl) start contained
  · exact nomatch contained

/-- An integer is no container. -/
theorem container?_of_signed? {text : String} {value : Int}
    (integral : Literal.signed? 64 10 text.toList = some value) : container? text = none := by
  unfold container?
  split
  · next start =>
      rw [start] at integral
      exact nomatch integral
  · next start =>
      rw [start] at integral
      exact nomatch integral
  · rfl

/-- A text that spells no array and no object is coerced to the scalar that it spells. -/
theorem coerce_cases (text : String) :
    (coerce text).isScalar = false ∨ coerce text = (scalar? text).getD (.str text) := by
  unfold coerce
  cases contained : container? text with
  | some value => exact .inl (isScalar_of_container? contained)
  | none => exact .inr rfl

/-- A text that is an integer of 64 bits with its sign is read as that integer. -/
theorem scalar?_of_signed? {text : String} {value : Int}
    (integral : Literal.signed? 64 10 text.toList = some value) :
    scalar? text = some (Json.ofInt value) := by
  unfold scalar?
  split
  · have word : Literal.signed? 64 10 "true".toList = none := by decide
    exact nomatch word.symm.trans integral
  · have word : Literal.signed? 64 10 "false".toList = none := by decide
    exact nomatch word.symm.trans integral
  · rw [integral]
    rfl

/-- **Text that spells an integer** with 64 bits for it and its sign, and no other, is one. -/
theorem coerce_eq_ofInt_iff (text : String) (value : Int) :
    coerce text = Json.ofInt value ↔ Literal.signed? 64 10 text.toList = some value := by
  constructor
  · intro spelled
    rcases coerce_cases text with nested | scalar
    · rw [spelled] at nested
      exact nomatch nested
    · rw [spelled] at scalar
      unfold scalar? at scalar
      split at scalar
      · exact nomatch scalar
      · exact nomatch scalar
      · split at scalar
        · next integral =>
            cases scalar
            exact integral
        · cases real : Literal.real? text.toList with
          | none =>
              rw [real] at scalar
              exact nomatch scalar
          | some _ =>
              rw [real] at scalar
              exact nomatch scalar
  · intro integral
    rw [coerce, container?_of_signed? integral, scalar?_of_signed? integral]
    rfl

/-- **The text of an integer** stands for the integer exactly when 64 bits hold it with its sign. -/
theorem coerce_toString_eq_ofInt_iff (value other : Int) :
    coerce (toString value) = Json.ofInt other ↔ Literal.IsSigned value ∧ value = other := by
  rw [coerce_eq_ofInt_iff, Literal.signed?_toString, Option.ite_none_right_eq_some,
    Option.some.injEq]

end Variables

/-! ## Literals in documents -/

/-- An integer of 64 bits that is not negative is read as such in a JSON text. -/
theorem Json.Raw.readValue_ofNat {value : Nat} (fits : value < Nat.pow 2 64) (fuel : Nat)
    {rest : Bytes} (ends : EndsNumber rest) :
    readValue (fuel + 1) (Bytes.ofText (toString value) ++ rest) =
      some (ofValue (Json.ofNat value), rest) := by
  have integral : (Number.int value).IsIntegral := by
    constructor
    · exact Int.le_trans (by decide) (Int.natCast_nonneg value)
    · exact Int.ofNat_lt.mpr fits
  exact readValue_int integral fuel ends

namespace Yaml

/-- No word is a text of digits. -/
theorem contains_digits_eq_false {words : List String}
    (wordy : ∀ word ∈ words, word.toList.all Char.isDigit = false) {text : String}
    (digits : ∀ c ∈ text.toList, c.isDigit = true) : words.contains text = false := by
  rw [← Bool.not_eq_true, List.contains_iff_mem]
  intro member
  exact Bool.eq_false_iff.mp (wordy text member) (List.all_eq_true.mpr digits)

/-- A number is written without spare zeros in front. -/
theorem hasSpareZero_toDigits (value : Nat) : hasSpareZero (Nat.toDigits 10 value) = false := by
  rcases Nat.eq_zero_or_pos value with rfl | positive
  · rfl
  · obtain ⟨first, rest, shape, significant⟩ := Json.Raw.toDigits_eq_cons positive
    obtain ⟨plus, minus⟩ := Literal.ne_sign_of_isDigit
      (Literal.isDigit_of_mem_toDigits first (shape ▸ List.mem_cons_self))
    rw [shape]
    unfold hasSpareZero
    split
    · next same => exact (plus (List.cons.inj same).1).elim
    · next same => exact (minus (List.cons.inj same).1).elim
    · dsimp only
      split
      · next same =>
          obtain ⟨rfl, -⟩ := List.cons.inj same
          exact absurd rfl significant
      · rfl

/-- Decimal digits name no other radix. -/
theorem radix?_of_digits {text : List Char} (digits : ∀ c ∈ text, c.isDigit = true) :
    radix? text = none := by
  unfold radix?
  split
  · exact absurd (digits 'x' (by simp)) (by decide)
  · exact absurd (digits 'o' (by simp)) (by decide)
  · exact absurd (digits 'b' (by simp)) (by decide)
  · rfl

/-- The digits of a number of 64 bits are read as it. -/
theorem int?_toDigits {value : Nat} (fits : value < Nat.pow 2 64) :
    int? (Nat.toDigits 10 value) = some value := by
  have magnitude : magnitude? (Nat.toDigits 10 value) = some value := by
    rw [magnitude?, radixDigits?, radix?_of_digits Literal.isDigit_of_mem_toDigits,
      hasSpareZero_toDigits, Literal.digits?_toDigits]
    rfl
  have room : value < Nat.pow 2 128 := Nat.lt_trans fits (by decide)
  obtain ⟨first, rest, shape⟩ :=
    List.exists_cons_of_ne_nil (Nat.toDigits_ne_nil (n := value) (b := 10))
  obtain ⟨plus, minus⟩ := Literal.ne_sign_of_isDigit
    (Literal.isDigit_of_mem_toDigits first (shape ▸ List.mem_cons_self))
  rw [shape] at magnitude ⊢
  unfold int?
  split
  · next same => exact (minus (List.cons.inj same).1).elim
  · next same => exact (plus (List.cons.inj same).1).elim
  · rw [magnitude, Option.filter_some, if_pos (decide_eq_true room)]
    rfl

/-- An integer of 64 bits that is not negative is read as such where it stands as a plain scalar. -/
theorem scalar?_toString {value : Nat} (fits : value < Nat.pow 2 64) :
    scalar? none true (toString value) = some (Json.ofNat value) := by
  have chars : (toString value).toList = Nat.toDigits 10 value := Nat.toList_repr
  have digits : ∀ c ∈ (toString value).toList, c.isDigit = true :=
    chars ▸ Literal.isDigit_of_mem_toDigits
  have written : (toString value).isEmpty = false := by
    rw [← Bool.not_eq_true, String.isEmpty_iff, ← String.toList_inj, chars]
    exact Nat.toDigits_ne_nil
  have null : nullWords.contains (toString value) = false :=
    contains_digits_eq_false (by decide) digits
  have truth : bool? (toString value) = none := by
    rw [bool?, contains_digits_eq_false (by decide) digits,
      contains_digits_eq_false (by decide) digits]
    rfl
  have spelled : Plain.ofText (toString value) = .int value := by
    rw [Plain.ofText, written, null, truth, chars, int?_toDigits fits]
    rfl
  have low : -(Nat.pow 2 63 : Int) ≤ value := Int.le_trans (by decide) (Int.natCast_nonneg value)
  rw [scalar?, untagged?, if_pos rfl, spelled, Plain.json?, if_pos ⟨low, Int.ofNat_lt.mpr fits⟩]
  rfl

end Yaml

end ActionGateway
