import ActionGateway.Proofs.EncodedHeaders
import Mathlib

/-!
# Texts in forms

What stands in the headers of a form here: names and file names of visible characters that can be
quoted as they are, and media types without parameters. Their bytes are visible ASCII, so they can
stand in headers, and a media type is read as it is written.
-/

namespace ActionGateway

open Multipart

/-! ## Visible characters -/

/-- Visible ASCII. -/
def isVisible (c : Char) : Bool := 0x21 ≤ c.toNat && c.toNat ≤ 0x7E

/-- The visible characters are those of ASCII from the exclamation mark to the tilde. -/
theorem isVisible_iff {c : Char} : isVisible c = true ↔ 0x21 ≤ c.toNat ∧ c.toNat ≤ 0x7E := by
  rw [isVisible, Bool.and_eq_true, decide_eq_true_iff, decide_eq_true_iff]

/-- A visible character is one byte long. -/
theorem lt_of_isVisible {c : Char} (visible : isVisible c = true) : c.toNat < 0x80 :=
  Nat.lt_of_le_of_lt (isVisible_iff.mp visible).2 (by decide)

/-- The characters of a token are visible. -/
theorem isVisible_of_isTokenChar {c : Char} (token : isTokenChar c = true) :
    isVisible c = true := by
  rw [isTokenChar, Bool.or_eq_true, List.contains_iff_mem] at token
  rcases token with letter | mark
  · have code : c.val.toNat = c.toNat := rfl
    simp only [Char.isAlphanum, Char.isAlpha, Char.isUpper, Char.isLower, Char.isDigit,
      Bool.or_eq_true, Bool.and_eq_true, decide_eq_true_eq, UInt32.le_iff_toNat_le, ge_iff_le,
      code] at letter
    change ((65 ≤ c.toNat ∧ c.toNat ≤ 90) ∨ (97 ≤ c.toNat ∧ c.toNat ≤ 122)) ∨
      (48 ≤ c.toNat ∧ c.toNat ≤ 57) at letter
    rw [isVisible_iff]
    omega
  · exact List.all_eq_true.mp (rfl : List.all _ isVisible = true) c mark

/-- Every byte of a visible text is one of its characters. -/
theorem Bytes.exists_char_of_visible {text : String}
    (visible : ∀ c ∈ text.toList, isVisible c = true) {byte : UInt8} (member : byte ∈ ofText text) :
    ∃ c ∈ text.toList, byte.toNat = c.toNat ∧ 0x21 ≤ byte.toNat ∧ byte.toNat ≤ 0x7E := by
  obtain ⟨c, inside, same⟩ := exists_char_of_mem_ofText
    (fun c inside => lt_of_isVisible (visible c inside)) member
  exact ⟨c, inside, same, same ▸ isVisible_iff.mp (visible c inside)⟩

/-! ## Names -/

/-- Visible ASCII that can be quoted as it is. -/
def isQuotable (c : Char) : Bool := isVisible c && c != '"' && c != '\\' && c != ';'

/-- What may stand in quotes: visible, and neither quote, backslash nor semicolon. -/
theorem isQuotable_iff {c : Char} :
    isQuotable c = true ↔ isVisible c = true ∧ c ≠ '"' ∧ c ≠ '\\' ∧ c ≠ ';' := by
  simp [isQuotable, and_assoc]

/-- A name or a file name, which is not empty. -/
structure AttributeText where
  text : String
  named : text ≠ ""
  quotable : ∀ c ∈ text.toList, isQuotable c = true

namespace AttributeText

/-- Its bytes. -/
def bytes (own : AttributeText) : Bytes := Bytes.ofText own.text

/-- The bytes of the value decode to its text. -/
theorem text?_bytes (own : AttributeText) : Bytes.text? own.bytes = some own.text :=
  Bytes.text?_ofText own.text

/-- Its bytes are visible, and none of them is a quote. -/
theorem visible_bytes (own : AttributeText) :
    ∀ byte ∈ own.bytes, 0x21 ≤ byte.toNat ∧ byte.toNat ≤ 0x7E ∧ byte ≠ 0x22 := by
  intro byte member
  have visible : ∀ c ∈ own.text.toList, isVisible c = true := fun c inside =>
    (isQuotable_iff.mp (own.quotable c inside)).1
  obtain ⟨c, inside, same, low, high⟩ := Bytes.exists_char_of_visible visible member
  refine ⟨low, high, ?_⟩
  rintro rfl
  have quote : c = '"' := Char.toNat_inj.mp same.symm
  exact (isQuotable_iff.mp (own.quotable c inside)).2.1 quote

/-- Its bytes may stand in the value of a header. -/
theorem isValueByte_bytes (own : AttributeText) :
    ∀ byte ∈ own.bytes, PartHeader.isValueByte byte = true := by
  intro byte member
  obtain ⟨low, high, -⟩ := own.visible_bytes byte member
  exact PartHeader.isValueByte_of_visible (Nat.le_of_succ_le low) high

end AttributeText

/-! ## Media types -/

/-- A token character that is no capital. -/
def isLowerToken (c : Char) : Bool := isTokenChar c && !c.isUpper

/-- The Boolean check decides it. -/
theorem isLowerToken_iff {c : Char} :
    isLowerToken c = true ↔ isTokenChar c = true ∧ c.isUpper = false := by
  simp [isLowerToken]

/-- A media type in lower case, without parameters. -/
structure PlainMediaType where
  main : List Char
  sub : List Char
  main_named : main ≠ []
  sub_named : sub ≠ []
  main_token : ∀ c ∈ main, isLowerToken c = true
  sub_token : ∀ c ∈ sub, isLowerToken c = true

namespace PlainMediaType

open PartHeader

/-- The type and the subtype with a slash between them. -/
def text (mediaType : PlainMediaType) : String :=
  String.ofList (mediaType.main ++ '/' :: mediaType.sub)

def bytes (mediaType : PlainMediaType) : Bytes := Bytes.ofText mediaType.text

/-- A plain media type is written in visible characters. -/
theorem visible (mediaType : PlainMediaType) :
    ∀ c ∈ mediaType.text.toList, isVisible c = true := by
  rw [text, String.toList_ofList]
  have ofToken {c : Char} (token : isLowerToken c = true) : isVisible c = true :=
    isVisible_of_isTokenChar (isLowerToken_iff.mp token).1
  refine List.forall_mem_append.mpr ⟨fun c member => ?_, List.forall_mem_cons.mpr ⟨rfl, ?_⟩⟩
  · exact ofToken (mediaType.main_token c member)
  · exact fun c member => ofToken (mediaType.sub_token c member)

/-- Lowering a small token character changes nothing. -/
theorem toLower_eq {c : Char} (token : isLowerToken c = true) : c.toLower = c := by
  refine dif_neg fun upper => ?_
  have lower := (isLowerToken_iff.mp token).2
  exact of_decide_eq_false lower upper

theorem map_toLower {chars : List Char} (token : ∀ c ∈ chars, isLowerToken c = true) :
    chars.map Char.toLower = chars := by
  refine (List.map_congr_left fun c member => ?_).trans (List.map_id chars)
  exact toLower_eq (token c member)

/-- A plain media type is read as it is written. -/
theorem ofText?_text (mediaType : PlainMediaType) :
    (MediaType.ofText? mediaType.text).map MediaType.text = some mediaType.text := by
  have tokens {chars : List Char} (token : ∀ c ∈ chars, isLowerToken c = true) :
      ∀ c ∈ chars, isTokenChar c = true := fun c member => (isLowerToken_iff.mp (token c member)).1
  have main : (mediaType.main ++ '/' :: mediaType.sub).takeWhile isTokenChar = mediaType.main := by
    rw [List.takeWhile_append_of_pos (tokens mediaType.main_token)]
    exact List.append_nil _
  have sub : mediaType.sub.takeWhile isTokenChar = mediaType.sub :=
    List.takeWhile_eq_self_iff.mpr (tokens mediaType.sub_token)
  have present : mediaType.main.isEmpty = false :=
    List.isEmpty_eq_false_iff.mpr mediaType.main_named
  simp only [MediaType.ofText?, text, String.toList_ofList, main, List.drop_left, present, sub,
    List.drop_length, map_toLower mediaType.main_token, map_toLower mediaType.sub_token,
    Bool.false_eq_true, ↓reduceIte, Option.map_some, MediaType.text, List.isEmpty_nil]

theorem visible_bytes (mediaType : PlainMediaType) :
    ∀ byte ∈ mediaType.bytes, 0x21 ≤ byte.toNat ∧ byte.toNat ≤ 0x7E := by
  intro byte member
  obtain ⟨c, -, -, visible⟩ := Bytes.exists_char_of_visible mediaType.visible member
  exact visible

/-- The bytes of a plain media type pass the check of a header value. -/
theorem all_printed (mediaType : PlainMediaType) :
    (mediaType.bytes.all fun byte => byte == 0x09 || (0x20 ≤ byte && byte < 0x7F)) = true := by
  rw [List.all_eq_true]
  intro byte member
  obtain ⟨low, high⟩ := mediaType.visible_bytes byte member
  simp only [Bool.or_eq_true, Bool.and_eq_true, decide_eq_true_eq]
  exact .inr ⟨UInt8.le_iff_toNat_le.mpr (Nat.le_of_succ_le low),
    UInt8.lt_iff_toNat_lt.mpr (Nat.lt_succ_of_le high)⟩

theorem text?_bytes (mediaType : PlainMediaType) :
    Bytes.text? mediaType.bytes = some mediaType.text :=
  Bytes.text?_ofText mediaType.text

/-- The header that names the media type. -/
def line (mediaType : PlainMediaType) : HeaderLine where
  name := Bytes.ofText "Content-Type"
  value := mediaType.bytes
  named := by decide
  name_bytes := List.all_eq_true.mp rfl
  value_bytes byte member := by
    obtain ⟨low, high⟩ := mediaType.visible_bytes byte member
    exact isValueByte_of_visible (Nat.le_of_succ_le low) high
  trimmed := trimmed_of_visible fun byte member => (mediaType.visible_bytes byte member).1

end PlainMediaType

end ActionGateway
