import ActionGateway.Proofs.WellFormedValues
import ActionGateway.Proofs.WrittenText
import Mathlib.Tactic.IntervalCases

/-!
# Written JSON is read back

What the printer writes for a value is grammatical, and the reader gives back the value. Numbers are
integers of 64 bits here; doubles are written and read elsewhere.
-/

namespace ActionGateway.Json

/-- An integer of 64 bits, signed or unsigned. -/
def Number.IsIntegral : Number → Prop
  | .int value => -(Nat.pow 2 63 : Int) ≤ value ∧ value < (Nat.pow 2 64 : Int)
  | .real _ => False

namespace Raw

open Bytes (ofChars)

/-! ## Numbers -/

/-- What may stand after a value inside a text: nothing, a comma or a closing bracket. -/
def EndsValue (rest : Bytes) : Prop :=
  ∀ byte after, rest = byte :: after → byte = 0x2C ∨ byte = 0x5D ∨ byte = 0x7D

theorem endsValue_nil : EndsValue [] := nofun

theorem endsValue_comma (rest : Bytes) : EndsValue (0x2C :: rest) := by
  rintro byte after ⟨⟩
  exact .inl rfl

theorem endsValue_bracket (rest : Bytes) : EndsValue (0x5D :: rest) := by
  rintro byte after ⟨⟩
  exact .inr (.inl rfl)

theorem endsValue_brace (rest : Bytes) : EndsValue (0x7D :: rest) := by
  rintro byte after ⟨⟩
  exact .inr (.inr rfl)

/-- What may stand after a whole number inside a text: nothing that would go on with it. -/
def EndsNumber (rest : Bytes) : Prop :=
  ∀ byte after, rest = byte :: after → digit? byte = none ∧ byte ≠ 0x2E ∧ byte ≠ 0x65 ∧ byte ≠ 0x45

/-- What ends a value ends a number. -/
theorem EndsValue.endsNumber {rest : Bytes} (ends : EndsValue rest) : EndsNumber rest := by
  intro byte after same
  rcases ends byte after same with rfl | rfl | rfl <;> decide

/-- A digit is written as one byte. -/
theorem utf8EncodeChar_digit {c : Char} (digit : c.isDigit = true) :
    ∃ byte, String.utf8EncodeChar c = [byte] ∧ digit? byte = some (c.toNat - 48) ∧
      0x30 ≤ byte ∧ byte ≤ 0x39 := by
  have code : c = Char.ofNat c.toNat := (Char.ofNat_toNat c).symm
  obtain ⟨low, high⟩ : 48 ≤ c.toNat ∧ c.toNat ≤ 57 := by
    simpa [Char.isDigit, UInt32.le_iff_toNat_le] using digit
  generalize c.toNat = n at low high code
  subst code
  interval_cases n <;> exact ⟨_, rfl, rfl, by decide⟩

/-- Digits are taken up to what is no digit. -/
theorem takeDigits_ofChars {chars : List Char} (digits : ∀ c ∈ chars, c.isDigit = true)
    (before : List Nat) {rest : Bytes} (ends : EndsNumber rest) :
    takeDigits before (ofChars chars ++ rest) =
      (before.reverse ++ chars.map fun c => c.toNat - 48, rest) := by
  induction chars generalizing before with
  | nil =>
      have closed : takeDigits before rest = (before.reverse, rest) := by
        cases rest with
        | nil => rfl
        | cons byte after => rw [takeDigits, (ends byte after rfl).1]
      rw [List.map_nil, List.append_nil]
      exact closed
  | cons c others ih =>
      obtain ⟨own, digits⟩ := List.forall_mem_cons.mp digits
      obtain ⟨byte, encoded, value, -⟩ := utf8EncodeChar_digit own
      rw [Bytes.ofChars_cons, encoded, List.append_assoc, List.singleton_append, takeDigits, value]
      simp only
      rw [ih digits, List.reverse_cons, List.append_assoc, List.map_cons]
      rfl

/-- As long as the value of all digits fits 64 bits, every digit counts. -/
theorem takeWhole_of_fits (digits : List Nat) (value : Nat) (scale : Int)
    (fits : digits.foldl (Digits.push 10) value < Nat.pow 2 64) :
    Significand.takeWhole ⟨value, scale⟩ digits = ⟨digits.foldl (Digits.push 10) value, scale⟩ := by
  induction digits generalizing value with
  | nil => rfl
  | cons digit rest ih =>
      rw [List.foldl_cons] at fits
      have grows : value * 10 + digit ≤
          rest.foldl (Digits.push 10) (Digits.push 10 value digit) := by
        rw [Digits.foldl_push]
        have place : 0 < Nat.pow 10 rest.length := Nat.pow_pos (by decide)
        have own : Digits.push 10 value digit = value * 10 + digit := rfl
        rw [own]
        exact Nat.le_add_right_of_le (Nat.le_mul_of_pos_right _ place)
      have step : Significand.fits ⟨value, scale⟩ digit = true :=
        decide_eq_true (Nat.lt_of_le_of_lt grows fits)
      rw [Significand.takeWhole, if_pos step, List.foldl_cons]
      exact ih _ fits

/-- Reading the digits of a number gives the number. -/
theorem foldl_push_toDigits (value : Nat) :
    ((Nat.toDigits 10 value).map fun c => c.toNat - 48).foldl (Digits.push 10) 0 = value := by
  have whole := Nat.ofDigitChars_ten_toDigits (n := value)
  have step : (fun sofar c => 10 * sofar + (c.toNat - '0'.toNat)) =
      fun (sofar : Nat) (c : Char) => Digits.push 10 sofar (c.toNat - 48) := by
    funext sofar c
    rw [Digits.push, Nat.mul_comm]
    rfl
  rw [Nat.ofDigitChars_eq_foldl, step] at whole
  rw [List.foldl_map, whole]

/-- A positive number does not begin with a zero. -/
theorem toDigits_eq_cons {value : Nat} (positive : 0 < value) :
    ∃ first rest, Nat.toDigits 10 value = first :: rest ∧ first.toNat - 48 ≠ 0 := by
  induction value using Nat.strongRecOn with
  | ind value ih =>
      by_cases small : value < 10
      · refine ⟨value.digitChar, [], Nat.toDigits_of_lt_base small, ?_⟩
        rw [Nat.toNat_digitChar_sub_48_of_lt_ten small]
        exact Nat.ne_of_gt positive
      · have large : 10 ≤ value := Nat.not_lt.mp small
        obtain ⟨first, rest, digits, significant⟩ := ih (value / 10)
          (Nat.div_lt_self positive (by decide)) (Nat.div_pos large (by decide))
        refine ⟨first, rest ++ [(value % 10).digitChar], ?_, significant⟩
        rw [Nat.toDigits_of_base_le (by decide) large, digits, List.cons_append]

/-- A number begins with a digit. -/
theorem exists_digit (value : Nat) :
    ∃ byte after, ofChars (Nat.toDigits 10 value) = byte :: after ∧ 0x30 ≤ byte ∧ byte ≤ 0x39 := by
  obtain ⟨first, others, shape⟩ :=
    List.exists_cons_of_ne_nil (Nat.toDigits_ne_nil (n := value) (b := 10))
  have digit : first.isDigit = true :=
    Nat.isDigit_of_mem_toDigits (by decide) (by decide) (shape.symm ▸ List.mem_cons_self)
  obtain ⟨byte, encoded, -, range⟩ := utf8EncodeChar_digit digit
  refine ⟨byte, ofChars others, ?_, range⟩
  rw [shape, Bytes.ofChars_cons, encoded, List.singleton_append]

/-- The digits of a number of 64 bits are read as a whole number. -/
theorem readMagnitude_toDigits (negative : Bool) (value : Nat) (fits : value < Nat.pow 2 64)
    {rest : Bytes} (ends : EndsNumber rest) :
    readMagnitude negative (ofChars (Nat.toDigits 10 value) ++ rest) =
      some (.num (wholeNumber negative ⟨value, 0⟩), rest) := by
  have digits : ∀ c ∈ Nat.toDigits 10 value, c.isDigit = true := fun c member =>
    Nat.isDigit_of_mem_toDigits (by decide) (by decide) member
  have taken := takeDigits_ofChars digits [] ends
  have valued := foldl_push_toDigits value
  have significand := takeWhole_of_fits ((Nat.toDigits 10 value).map fun c => c.toNat - 48) 0 0
    (valued.symm ▸ fits)
  rw [valued] at significand
  obtain ⟨first, more, shape, significant⟩ :
      ∃ first more, (Nat.toDigits 10 value).map (fun c => c.toNat - 48) = first :: more ∧
        (first = 0 → more = []) := by
    rcases Nat.eq_zero_or_pos value with rfl | positive
    · exact ⟨0, [], rfl, fun _ => rfl⟩
    · obtain ⟨first, more, written, significant⟩ := toDigits_eq_cons positive
      exact ⟨_, _, congrArg _ written, fun zero => absurd zero significant⟩
  rw [List.reverse_nil, List.nil_append, shape] at taken
  rw [shape] at significand
  unfold readMagnitude
  rw [taken]
  split
  · next empty => exact nomatch empty
  · next leading =>
      obtain ⟨zero, others⟩ := List.cons.inj (Prod.mk.inj leading).1
      exact nomatch (significant zero).symm.trans others
  · next same =>
      obtain ⟨rfl, rfl⟩ := Prod.mk.inj same
      rw [significand]
      cases rest with
      | nil => rfl
      | cons byte after =>
          obtain ⟨-, point, lower, upper⟩ := ends byte after rfl
          split
          · next same => exact (point (List.cons.inj same).1).elim
          · next same => exact (lower (List.cons.inj same).1).elim
          · next same => exact (upper (List.cons.inj same).1).elim
          · rfl

/-- A value that begins with a digit is a number. -/
theorem readValue_of_digit {byte : UInt8} (digit : 0x30 ≤ byte ∧ byte ≤ 0x39) (fuel : Nat)
    (rest : Bytes) : readValue (fuel + 1) (byte :: rest) = readMagnitude false (byte :: rest) := by
  obtain ⟨low, high⟩ : 48 ≤ byte.toNat ∧ byte.toNat ≤ 57 :=
    ⟨UInt8.le_iff_toNat_le.mp digit.1, UInt8.le_iff_toNat_le.mp digit.2⟩
  have code : byte = UInt8.ofNat byte.toNat := UInt8.ofNat_toNat.symm
  generalize byte.toNat = n at low high code
  subst code
  rw [readValue]
  interval_cases n <;> rfl

theorem toList_toString_ofNat (magnitude : Nat) :
    (toString (Int.ofNat magnitude)).toList = Nat.toDigits 10 magnitude :=
  Nat.toList_repr

theorem toList_toString_negSucc (less : Nat) :
    (toString (Int.negSucc less)).toList = '-' :: Nat.toDigits 10 (less + 1) := by
  change ("-" ++ (less + 1).repr).toList = _
  rw [String.toList_append, Nat.toList_repr]
  rfl

/-- An integer of 64 bits that was written is read back. -/
theorem readValue_int {value : Int} (integral : (Number.int value).IsIntegral) (fuel : Nat)
    {rest : Bytes} (ends : EndsNumber rest) :
    readValue (fuel + 1) (ofChars (toString value).toList ++ rest) =
      some (.num (some (.int value)), rest) := by
  obtain ⟨low, high⟩ := integral
  cases value with
  | ofNat magnitude =>
      have written := toList_toString_ofNat magnitude
      have fits : magnitude < Nat.pow 2 64 := Int.ofNat_lt.mp high
      obtain ⟨byte, after, bytes, digit⟩ := exists_digit magnitude
      have read := readMagnitude_toDigits false magnitude fits ends
      rw [bytes] at read
      rw [written, bytes, List.cons_append, readValue_of_digit digit]
      exact read
  | negSucc less =>
      have written := toList_toString_negSucc less
      have fits : less + 1 ≤ Nat.pow 2 63 := by
        rw [Int.negSucc_eq] at low
        exact Int.ofNat_le.mp (Int.neg_le_neg_iff.mp low)
      have read := readMagnitude_toDigits true (less + 1)
        (Nat.lt_of_le_of_lt fits (by decide)) ends
      have number : wholeNumber true ⟨less + 1, 0⟩ = some (.int (Int.negSucc less)) := by
        rw [wholeNumber, if_neg (by simp), if_pos ⟨rfl, Nat.succ_pos less, fits⟩]
        rfl
      rw [number] at read
      rw [written, Bytes.ofChars_cons, readValue]
      exact read

end Raw

/-! ## Values -/

mutual

/-- Every number in the value is an integer of 64 bits. -/
def IsIntegral : Json → Prop
  | .num number => number.IsIntegral
  | .arr items => AreIntegral items
  | .obj fields => FieldsIntegral fields
  | _ => True

/-- All numbers in the items are integers of 64 bits. -/
def AreIntegral : List Json → Prop
  | [] => True
  | item :: rest => item.IsIntegral ∧ AreIntegral rest

/-- All numbers in the fields are integers of 64 bits. -/
def FieldsIntegral : List (String × Json) → Prop
  | [] => True
  | field :: rest => field.2.IsIntegral ∧ FieldsIntegral rest

end

mutual

/-- Whether all numbers are integers of 64 bits can be computed. -/
def decIsIntegral : (value : Json) → Decidable value.IsIntegral
  | .null | .bool _ | .str _ => isTrue trivial
  | .num (.int value) =>
      inferInstanceAs (Decidable (-(Nat.pow 2 63 : Int) ≤ value ∧ value < (Nat.pow 2 64 : Int)))
  | .num (.real _) => isFalse id
  | .arr items => decAreIntegral items
  | .obj fields => decFieldsIntegral fields

def decAreIntegral : (items : List Json) → Decidable (AreIntegral items)
  | [] => isTrue trivial
  | item :: rest => @instDecidableAnd _ _ (decIsIntegral item) (decAreIntegral rest)

def decFieldsIntegral : (fields : List (String × Json)) → Decidable (FieldsIntegral fields)
  | [] => isTrue trivial
  | (_, value) :: rest => @instDecidableAnd _ _ (decIsIntegral value) (decFieldsIntegral rest)

end

instance : DecidablePred IsIntegral := decIsIntegral

namespace Raw

open Bytes (ofChars)

/-- The bytes of an array. -/
theorem ofChars_arr (items : List Json) :
    ofChars (Json.arr items).compactChars = 0x5B :: (ofChars (compactItems items) ++ [0x5D]) := by
  rw [compactChars, List.cons_append, Bytes.ofChars_cons, Bytes.ofChars_append]
  rfl

/-- The bytes of an object. -/
theorem ofChars_obj (fields : List (String × Json)) :
    ofChars (Json.obj fields).compactChars =
      0x7B :: (ofChars (compactFields fields) ++ [0x7D]) := by
  rw [compactChars, List.cons_append, Bytes.ofChars_cons, Bytes.ofChars_append]
  rfl

/-- What is written after an item: nothing, or a comma and the other items. -/
def itemsAfter : List Json → Bytes
  | [] => []
  | next :: others => 0x2C :: ofChars (compactItems (next :: others))

theorem ofChars_items (item : Json) (rest : List Json) :
    ofChars (compactItems (item :: rest)) = ofChars item.compactChars ++ itemsAfter rest := by
  cases rest with
  | nil =>
      rw [compactItems]
      exact (List.append_nil _).symm
  | cons next others =>
      rw [compactItems, Bytes.ofChars_append, Bytes.ofChars_cons]
      rfl

/-- What is written after a field: nothing, or a comma and the other fields. -/
def fieldsAfter : List (String × Json) → Bytes
  | [] => []
  | next :: others => 0x2C :: ofChars (compactFields (next :: others))

theorem ofChars_fields (field : String × Json) (rest : List (String × Json)) :
    ofChars (compactFields (field :: rest)) =
      0x22 :: (ofChars (field.1.toList.flatMap escapeChar) ++
        0x22 :: 0x3A :: (ofChars field.2.compactChars ++ fieldsAfter rest)) := by
  obtain ⟨name, value⟩ := field
  have field : ofChars (stringChars name ++ ':' :: value.compactChars) =
      0x22 :: (ofChars (name.toList.flatMap escapeChar) ++
        0x22 :: 0x3A :: ofChars value.compactChars) := by
    rw [Bytes.ofChars_append, ofChars_stringChars, Bytes.ofChars_cons, List.cons_append,
      List.append_assoc]
    rfl
  cases rest with
  | nil =>
      rw [compactFields, field, fieldsAfter, List.append_nil]
  | cons next others =>
      rw [compactFields, Bytes.ofChars_append, field, Bytes.ofChars_cons]
      simp only [List.cons_append, List.append_assoc, fieldsAfter]
      rfl

/-! ## Single steps -/

section Steps

variable {fuel : Nat} {bytes rest after : Bytes}

/-- A quote begins a string. -/
theorem readValue_string {content : Option String}
    (read : readString [] true (fuel + 1) bytes = some (content, rest)) :
    readValue (fuel + 1) (0x22 :: bytes) = some (.str content, rest) := by
  change (readString [] true (fuel + 1) bytes).map _ = _
  rw [read]
  rfl

/-- A bracket behind an item ends the array. -/
theorem readItems_last {item : Raw} (before : List Raw)
    (read : readValue fuel bytes = some (item, 0x5D :: rest)) :
    readItems before (fuel + 1) bytes = some (.arr (item :: before).reverse, rest) := by
  rw [readItems, read]
  rfl

/-- A comma behind it leads to the next one. -/
theorem readItems_next {item : Raw} (before : List Raw)
    (read : readValue fuel bytes = some (item, 0x2C :: rest)) :
    readItems before (fuel + 1) bytes = readItems (item :: before) fuel rest := by
  rw [readItems, read]
  rfl

variable {name : Option String} {value : Raw} (before : List (Option String × Raw))
  (named : readString [] true (fuel + 1) bytes = some (name, 0x3A :: after))

include named

/-- A brace behind a field ends the object. -/
theorem readFields_last (read : readValue fuel after = some (value, 0x7D :: rest)) :
    readFields before (fuel + 1) (0x22 :: bytes) =
      some (.obj ((name, value) :: before).reverse, rest) := by
  have opened : skipBlank (0x22 :: bytes) = 0x22 :: bytes := rfl
  have colon : skipBlank (0x3A :: after) = 0x3A :: after := rfl
  rw [readFields]
  simp only [opened, named, colon, read]
  rfl

/-- A comma behind it leads to the next one. -/
theorem readFields_next (read : readValue fuel after = some (value, 0x2C :: rest)) :
    readFields before (fuel + 1) (0x22 :: bytes) =
      readFields ((name, value) :: before) fuel rest := by
  have opened : skipBlank (0x22 :: bytes) = 0x22 :: bytes := rfl
  have colon : skipBlank (0x3A :: after) = 0x3A :: after := rfl
  rw [readFields]
  simp only [opened, named, colon, read]
  rfl

end Steps

theorem readValue_items {byte : UInt8} {more : Bytes} (fuel : Nat) (inside : byte ≠ 0x5D)
    (visible : skipBlank (byte :: more) = byte :: more) :
    readValue (fuel + 1) (0x5B :: byte :: more) = readItems [] fuel (byte :: more) := by
  have opened : skipBlank (0x5B :: byte :: more) = 0x5B :: byte :: more := rfl
  rw [readValue]
  simp only [opened, visible]
  split
  · next ended => exact absurd (List.cons.inj ended).1 inside
  · rfl

theorem skipBlank_of_digit {byte : UInt8} (digit : 0x30 ≤ byte) (rest : Bytes) :
    skipBlank (byte :: rest) = byte :: rest := by
  refine if_neg ?_
  rintro (rfl | rfl | rfl | rfl) <;> exact absurd digit (by decide)

/-- A written value begins with a byte that is neither blank nor the end of an array. -/
theorem exists_start (value : Json) (integral : value.IsIntegral) :
    ∃ byte after, ofChars value.compactChars = byte :: after ∧ byte ≠ 0x5D ∧
      ∀ rest, skipBlank (byte :: rest) = byte :: rest := by
  cases value with
  | null => exact ⟨_, _, rfl, by decide, fun _ => rfl⟩
  | bool flag => cases flag <;> exact ⟨_, _, rfl, by decide, fun _ => rfl⟩
  | num number =>
      cases number with
      | real _ => exact integral.elim
      | int value =>
          change ∃ byte after, ofChars (toString value).toList = byte :: after ∧ _
          cases value with
          | ofNat magnitude =>
              obtain ⟨byte, after, bytes, low, high⟩ := exists_digit magnitude
              rw [toList_toString_ofNat]
              refine ⟨byte, after, bytes, ?_, skipBlank_of_digit low⟩
              rintro rfl
              exact absurd high (by decide)
          | negSucc less =>
              rw [toList_toString_negSucc]
              exact ⟨_, _, rfl, by decide, fun _ => rfl⟩
  | str text => exact ⟨_, _, ofChars_stringChars text, by decide, fun _ => rfl⟩
  | arr items => exact ⟨_, _, ofChars_arr items, by decide, fun _ => rfl⟩
  | obj fields => exact ⟨_, _, ofChars_obj fields, by decide, fun _ => rfl⟩

mutual

/-- **A written value is read back**, and what comes after it is left. -/
theorem readValue_compactChars (value : Json) (integral : value.IsIntegral) (fuel : Nat)
    (enough : 2 * (ofChars value.compactChars).length ≤ fuel) {rest : Bytes}
    (ends : EndsValue rest) :
    readValue fuel (ofChars value.compactChars ++ rest) = some (ofValue value, rest) := by
  -- Two units of fuel for each byte are enough: a value takes one, and so does its place in a list.
  obtain ⟨byte, after, bytes, -⟩ := exists_start value integral
  have written : 0 < (ofChars value.compactChars).length := by
    rw [bytes]
    exact Nat.succ_pos _
  obtain ⟨fuel, rfl⟩ : ∃ less, fuel = less + 1 := ⟨fuel - 1, by omega⟩
  cases value with
  | null => rfl
  | bool flag => cases flag <;> rfl
  | num number =>
      cases number with
      | real _ => exact integral.elim
      | int value => exact readValue_int integral fuel ends.endsNumber
  | str text =>
      have written : ofChars (Json.str text).compactChars = _ := ofChars_stringChars text
      rw [written, List.length_cons, List.length_append] at enough
      have read := readString_text text (fuel + 1) rest (by omega)
      rw [written, List.cons_append, List.append_assoc, List.singleton_append]
      exact readValue_string read
  | arr items =>
      rw [ofChars_arr, List.length_cons, List.length_append, List.length_singleton] at enough
      rw [ofChars_arr, List.cons_append, List.append_assoc, List.singleton_append]
      cases items with
      | nil => rfl
      | cons item others =>
          obtain ⟨first, later, start, inside, visible⟩ := exists_start item integral.1
          have bytes : ofChars (compactItems (item :: others)) ++ 0x5D :: rest =
              first :: (later ++ itemsAfter others ++ 0x5D :: rest) := by
            rw [ofChars_items, start]
            rfl
          have read := readItems_compactItems (item :: others) (List.cons_ne_nil _ _) integral []
            fuel (by omega) rest
          rw [bytes] at read
          rw [bytes, readValue_items fuel inside (visible _), read]
          rfl
  | obj fields =>
      rw [ofChars_obj, List.length_cons, List.length_append, List.length_singleton] at enough
      rw [ofChars_obj, List.cons_append, List.append_assoc, List.singleton_append]
      cases fields with
      | nil => rfl
      | cons field others =>
          have read := readFields_compactFields (field :: others) (List.cons_ne_nil _ _) integral []
            fuel (by omega) rest
          rw [ofChars_fields] at read ⊢
          exact read

/-- The items of an array are read back as they are written. -/
theorem readItems_compactItems (items : List Json) (nonempty : items ≠ [])
    (integral : AreIntegral items) (before : List Raw) (fuel : Nat)
    (enough : 2 * (ofChars (compactItems items)).length + 1 ≤ fuel) (rest : Bytes) :
    readItems before fuel (ofChars (compactItems items) ++ 0x5D :: rest) =
      some (.arr (before.reverse ++ ofItems items), rest) := by
  obtain ⟨fuel, rfl⟩ : ∃ less, fuel = less + 1 := ⟨fuel - 1, by omega⟩
  cases items with
  | nil => exact absurd rfl nonempty
  | cons item others =>
      rw [ofChars_items, List.length_append] at enough
      rw [ofChars_items, List.append_assoc]
      cases others with
      | nil =>
          have read := readValue_compactChars item integral.1 fuel (by omega)
            (endsValue_bracket rest)
          rw [itemsAfter, List.nil_append, readItems_last before read, List.reverse_cons]
          rfl
      | cons next others =>
          rw [itemsAfter, List.length_cons] at enough
          have read := readValue_compactChars item integral.1 fuel (by omega)
            (endsValue_comma (ofChars (compactItems (next :: others)) ++ 0x5D :: rest))
          have later := readItems_compactItems (next :: others) (List.cons_ne_nil _ _) integral.2
            (ofValue item :: before) fuel (by omega) rest
          rw [itemsAfter, List.cons_append, readItems_next before read, later, List.reverse_cons,
            List.append_assoc]
          rfl

theorem readFields_compactFields (fields : List (String × Json)) (nonempty : fields ≠ [])
    (integral : FieldsIntegral fields) (before : List (Option String × Raw)) (fuel : Nat)
    (enough : 2 * (ofChars (compactFields fields)).length + 1 ≤ fuel) (rest : Bytes) :
    readFields before fuel (ofChars (compactFields fields) ++ 0x7D :: rest) =
      some (.obj (before.reverse ++ ofFields fields), rest) := by
  obtain ⟨fuel, rfl⟩ : ∃ less, fuel = less + 1 := ⟨fuel - 1, by omega⟩
  cases fields with
  | nil => exact absurd rfl nonempty
  | cons field others =>
      rw [ofChars_fields] at enough ⊢
      simp only [List.length_cons, List.length_append] at enough
      simp only [List.cons_append, List.append_assoc]
      have named := readString_text field.1 (fuel + 1)
        (0x3A :: (ofChars field.2.compactChars ++ (fieldsAfter others ++ 0x7D :: rest))) (by omega)
      cases others with
      | nil =>
          have read := readValue_compactChars field.2 integral.1 fuel (by omega)
            (endsValue_brace rest)
          rw [readFields_last before named read, List.reverse_cons]
          rfl
      | cons next others =>
          rw [fieldsAfter, List.length_cons] at enough
          have read := readValue_compactChars field.2 integral.1 fuel (by omega)
            (endsValue_comma (ofChars (compactFields (next :: others)) ++ 0x7D :: rest))
          have later := readFields_compactFields (next :: others) (List.cons_ne_nil _ _) integral.2
            ((some field.1, ofValue field.2) :: before) fuel (by omega) rest
          rw [readFields_next before named read, later, List.reverse_cons, List.append_assoc]
          rfl

end

/-- **What is written for a value is grammatical and says the value.** -/
theorem ofBytes?_compact {value : Json} (integral : value.IsIntegral) :
    ofBytes? (Bytes.ofText value.compact) = some (ofValue value) := by
  have read := readValue_compactChars value integral
    (2 * (ofChars value.compactChars).length + 2) (Nat.le_add_right _ _) endsValue_nil
  rw [List.append_nil] at read
  rw [compact, Bytes.ofText_ofList, ofBytes?, read]
  rfl

/-! ## Meaning -/

mutual

/-- Where there is room, a value is what its text says. -/
theorem value?_ofValue (value : Json) (wellFormed : value.WellFormed) {room : Nat}
    (fits : value.depth ≤ room) : (ofValue value).value? room = some value := by
  cases value with
  | null => rfl
  | bool flag => rfl
  | num number => rfl
  | str text => rfl
  | arr items =>
      rw [depth] at fits
      obtain ⟨room, rfl⟩ := Nat.exists_eq_add_of_le' (Nat.one_le_of_lt fits)
      have inner := values?_ofItems items wellFormed (Nat.le_of_succ_le_succ fits)
      rw [ofValue, value?, inner]
      rfl
  | obj fields =>
      rw [depth] at fits
      obtain ⟨room, rfl⟩ := Nat.exists_eq_add_of_le' (Nat.one_le_of_lt fits)
      obtain ⟨ordered, values⟩ := wellFormed
      have inner := fieldValues?_ofFields fields values (Nat.le_of_succ_le_succ fits)
      rw [ofValue, value?, inner, Option.map_some, object, sortFields_of_inOrder ordered]

/-- Well-formed items come back from raw JSON. -/
theorem values?_ofItems (items : List Json) (wellFormed : WellFormedItems items) {room : Nat}
    (fits : depthItems items ≤ room) : values? room (ofItems items) = some items := by
  cases items with
  | nil => rfl
  | cons item others =>
      rw [depthItems, Nat.max_le] at fits
      have own := value?_ofValue item wellFormed.1 fits.1
      have later := values?_ofItems others wellFormed.2 fits.2
      rw [ofItems, values?, own, later]
      rfl

theorem fieldValues?_ofFields (fields : List (String × Json))
    (wellFormed : WellFormedFields fields) {room : Nat} (fits : depthFields fields ≤ room) :
    fieldValues? room (ofFields fields) = some fields := by
  cases fields with
  | nil => rfl
  | cons field others =>
      rw [depthFields, Nat.max_le] at fits
      have own := value?_ofValue field.2 wellFormed.1 fits.1
      have later := fieldValues?_ofFields others wellFormed.2 fits.2
      rw [ofFields, fieldValues?, own, later]
      rfl

end

end Raw

/-- **A value is read back from its text**, if it is not nested too deep. -/
theorem ofText?_compact {value : Json} (integral : value.IsIntegral)
    (wellFormed : value.WellFormed) (fits : value.depth ≤ maxDepth) :
    ofText? value.compact = some value := by
  rw [ofText?, ofBytes?, Raw.ofBytes?_compact integral, Option.bind_some,
    Raw.value?_ofValue value wellFormed fits]

end ActionGateway.Json
