import ActionGateway.Json.Printer
import ActionGateway.Json.Reader
import Mathlib.Tactic.IntervalCases

/-!
# Written text is read back

Text survives its way through bytes, and so does a string through JSON: what the printer writes
between quotes, the reader reads as the same text, whatever characters are in it.
-/

namespace ActionGateway

/-! ## Characters as bytes -/

namespace Bytes

/-- The bytes of characters in UTF-8. -/
def ofChars (chars : List Char) : Bytes := chars.flatMap String.utf8EncodeChar

theorem ofChars_append (first second : List Char) :
    ofChars (first ++ second) = ofChars first ++ ofChars second :=
  List.flatMap_append

theorem ofChars_cons (c : Char) (rest : List Char) :
    ofChars (c :: rest) = String.utf8EncodeChar c ++ ofChars rest := rfl

/-- The bytes of a text are those of its characters. -/
theorem ofText_ofList (chars : List Char) : ofText (String.ofList chars) = ofChars chars := by
  rw [ofText, String.toList_ofList, ofChars]

/-- **The bytes of a text are read as that text.** -/
theorem text?_ofText (text : String) : text? (ofText text) = some text := by
  have bytes : (ofText text).toByteArray = text.toByteArray := by
    rw [← String.utf8Encode_toList]
    rfl
  have valid : text.toByteArray.IsValidUTF8 := text.isValidUTF8
  rw [text?, bytes, String.fromUTF8?, dif_pos valid]
  rfl

/-- A byte that stands for itself inside a string. -/
def IsPlain (byte : UInt8) : Prop := 0x20 ≤ byte ∧ byte ≠ 0x22 ∧ byte ≠ 0x5C

theorem isPlain_ofNat {code : Nat} (low : 0x20 ≤ code) (high : code < 0x100) (quote : code ≠ 0x22)
    (backslash : code ≠ 0x5C) : IsPlain (UInt8.ofNat code) := by
  have value : (UInt8.ofNat code).toNat = code := UInt8.toNat_ofNat_of_lt' high
  refine ⟨UInt8.le_iff_toNat_le.mpr (value.symm ▸ low), fun same => quote ?_,
    fun same => backslash ?_⟩
  · rw [← value, same]
    rfl
  · rw [← value, same]
    rfl

/-- A character that needs no escape is encoded in bytes that stand for themselves: itself, or bytes
that are no ASCII. -/
theorem isPlain_of_mem_utf8EncodeChar {c : Char} (printed : 0x20 ≤ c.toNat) (quote : c ≠ '"')
    (backslash : c ≠ '\\') : ∀ byte ∈ String.utf8EncodeChar c, IsPlain byte := by
  have code : c.val.toNat = c.toNat := rfl
  have notQuote : c.toNat ≠ 0x22 := fun same => quote (Char.toNat_inj.mp same)
  have notBackslash : c.toNat ≠ 0x5C := fun same => backslash (Char.toNat_inj.mp same)
  have wide {code : Nat} (low : 0x80 ≤ code) (high : code < 0x100) : IsPlain (UInt8.ofNat code) :=
    isPlain_ofNat (by omega) high (by omega) (by omega)
  unfold String.utf8EncodeChar
  simp only [code]
  split
  · rw [List.forall_mem_singleton]
    exact isPlain_ofNat printed (by omega) notQuote notBackslash
  split
  · simp only [List.forall_mem_cons]
    exact ⟨wide (by omega) (by omega), wide (by omega) (by omega), nofun⟩
  split
  · simp only [List.forall_mem_cons]
    exact ⟨wide (by omega) (by omega), wide (by omega) (by omega), wide (by omega) (by omega),
      nofun⟩
  · simp only [List.forall_mem_cons]
    exact ⟨wide (by omega) (by omega), wide (by omega) (by omega), wide (by omega) (by omega),
      wide (by omega) (by omega), nofun⟩

end Bytes

/-! ## Strings -/

namespace Json.Raw

open Bytes (ofChars)

/-- A plain byte of a string is read as itself. -/
theorem readStringPart_of_isPlain {byte : UInt8} (plain : Bytes.IsPlain byte) (rest : Bytes) :
    readStringPart (byte :: rest) = some (.content [byte], rest) := by
  obtain ⟨printed, quote, backslash⟩ := plain
  have notControl : ¬ byte < 0x20 := UInt8.not_lt.mpr printed
  unfold readStringPart
  split <;> simp_all

/-- Plain bytes are read one by one. -/
theorem readString_of_isPlain {bytes : Bytes} (plain : ∀ byte ∈ bytes, Bytes.IsPlain byte)
    (content : Bytes) (sound : Bool) (fuel : Nat) (rest : Bytes) :
    readString content sound (fuel + bytes.length) (bytes ++ rest) =
      readString (bytes.reverse ++ content) sound fuel rest := by
  induction bytes generalizing content with
  | nil => rfl
  | cons byte others ih =>
      obtain ⟨own, plain⟩ := List.forall_mem_cons.mp plain
      have part := readStringPart_of_isPlain own (others ++ rest)
      rw [List.length_cons, ← Nat.add_assoc, List.cons_append, readString, part]
      simp only [List.reverse_cons, List.append_assoc]
      exact ih plain _

/-- A character that is escaped is read in one go. -/
theorem readStringPart_escapeChar {c : Char} (special : c.toNat < 0x20 ∨ c = '"' ∨ c = '\\')
    (rest : Bytes) :
    readStringPart (ofChars (escapeChar c) ++ rest) =
      some (.content (String.utf8EncodeChar c), rest) := by
  rcases special with control | rfl | rfl
  · have code : c = Char.ofNat c.toNat := (Char.ofNat_toNat c).symm
    generalize c.toNat = n at control code
    subst code
    interval_cases n <;> rfl
  · rfl
  · rfl

/-- A printed character other than quote and backslash is not escaped. -/
theorem escapeChar_of_printed {c : Char} (printed : 0x20 ≤ c.toNat) (quote : c ≠ '"')
    (backslash : c ≠ '\\') : escapeChar c = [c] := by
  unfold escapeChar
  rw [if_neg quote, if_neg backslash, if_neg (by omega), if_neg (by omega), if_neg (by omega),
    if_neg (by omega), if_neg (by omega), if_neg (by omega)]

theorem length_escapeChar_pos (c : Char) : 0 < (ofChars (escapeChar c)).length := by
  have written : escapeChar c ≠ [] := by
    unfold escapeChar
    split_ifs <;> exact List.cons_ne_nil _ _
  obtain ⟨first, rest, written⟩ := List.exists_cons_of_ne_nil written
  have bytes : 0 < (String.utf8EncodeChar first).length :=
    List.length_pos_iff.mpr String.utf8EncodeChar_ne_nil
  rw [written, Bytes.ofChars_cons, List.length_append]
  omega

/-- The text of a string, up to its closing quote. -/
theorem readString_escaped (chars : List Char) (content : Bytes) {fuel : Nat} (rest : Bytes)
    (enough : (ofChars (chars.flatMap escapeChar)).length < fuel) :
    readString content true fuel (ofChars (chars.flatMap escapeChar) ++ 0x22 :: rest) =
      some (Bytes.text? (content.reverse ++ ofChars chars), rest) := by
  induction chars generalizing content fuel with
  | nil =>
      obtain ⟨fuel, rfl⟩ := Nat.exists_eq_add_of_lt enough
      have closed : content.reverse ++ ofChars [] = content.reverse := List.append_nil _
      rw [closed]
      rfl
  | cons c others ih =>
      rw [List.flatMap_cons, Bytes.ofChars_append, List.append_assoc]
      rw [List.flatMap_cons, Bytes.ofChars_append, List.length_append] at enough
      -- An escape is one step of the reader, a character without one takes a step for each byte.
      by_cases special : c.toNat < 0x20 ∨ c = '"' ∨ c = '\\'
      · obtain ⟨more, rfl⟩ := Nat.exists_eq_add_of_lt enough
        have consumed := length_escapeChar_pos c
        rw [readString, readStringPart_escapeChar special]
        simp only
        rw [ih _ (by omega), List.reverse_append, List.reverse_reverse, List.append_assoc]
        rfl
      · obtain ⟨printed, quote, backslash⟩ : 0x20 ≤ c.toNat ∧ c ≠ '"' ∧ c ≠ '\\' := by
          simpa only [not_or, Nat.not_lt] using special
        have written : ofChars (escapeChar c) = String.utf8EncodeChar c := by
          rw [escapeChar_of_printed printed quote backslash]
          exact List.append_nil _
        rw [written] at enough ⊢
        obtain ⟨left, rfl⟩ : ∃ left, fuel = left + (String.utf8EncodeChar c).length :=
          ⟨fuel - (String.utf8EncodeChar c).length, by omega⟩
        have plain := Bytes.isPlain_of_mem_utf8EncodeChar printed quote backslash
        rw [readString_of_isPlain plain, ih _ (by omega), List.reverse_append,
          List.reverse_reverse, List.append_assoc]
        rfl

/-- **A written string is read back.** -/
theorem readString_text (text : String) (fuel : Nat) (rest : Bytes)
    (enough : (ofChars (text.toList.flatMap escapeChar)).length < fuel) :
    readString [] true fuel (ofChars (text.toList.flatMap escapeChar) ++ 0x22 :: rest) =
      some (some text, rest) := by
  have whole : Bytes.text? (ofChars text.toList) = some text := Bytes.text?_ofText text
  rw [readString_escaped _ _ _ enough, List.reverse_nil, List.nil_append, whole]

/-- A written string stands between quotes. -/
theorem ofChars_stringChars (text : String) :
    ofChars (stringChars text) =
      0x22 :: (ofChars (text.toList.flatMap escapeChar) ++ [0x22]) := by
  rw [stringChars, List.cons_append, Bytes.ofChars_cons, Bytes.ofChars_append]
  rfl

end Json.Raw

end ActionGateway
