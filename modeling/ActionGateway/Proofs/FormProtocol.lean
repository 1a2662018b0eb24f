import ActionGateway.Multipart.Reader
import ActionGateway.Proofs.FormTexts
import Mathlib.Data.List.Forall2

/-!
# Forms as the protocol describes them

Where the fields of a form begin and end is told by marks: the first delimiter, for each field the
first empty line behind the delimiter and the first delimiter at the start of a line behind that,
and two hyphens in place of another field. The header lines of a field tell its name, its file name
and its content type. This is said of bytes as a whole; how they are cut when they arrive does not
count.

A decoder conforms when it gives just the fields that a body holds in this sense. Nothing is asked
of it for any other body: header lines that are repeated or too many, names that would have to be
escaped, or a body that ends within a field.
-/

namespace ActionGateway

open Multipart

/-- **Boundary** of visible ASCII characters. -/
structure FormBoundary where
  text : String
  named : text ≠ ""
  visible : ∀ c ∈ text.toList, isVisible c = true

/-! ## Content dispositions -/

/-- What an attribute of a content disposition tells. -/
inductive AttributeKey where
  | name
  | filename
  deriving DecidableEq

/-- How the key is written in a header. -/
def AttributeKey.text : AttributeKey → String
  | name => "name"
  | filename => "filename"

/-- **Attribute of a content disposition**: behind a semicolon and blanks, a key and its value in
quotes. -/
structure DispositionAttribute where
  blanks : Nat
  key : AttributeKey
  value : AttributeText

namespace DispositionAttribute

/-- The bytes up to the value. -/
def opening (own : DispositionAttribute) : Bytes :=
  0x3B :: (List.replicate own.blanks 0x20 ++ Bytes.ofText (own.key.text ++ "="))

/-- The attribute as it is written: the semicolon, blanks, the key and the quoted value. -/
def bytes (own : DispositionAttribute) : Bytes :=
  own.opening ++ 0x22 :: (own.value.bytes ++ [0x22])

/-- The value of the first attribute with a key. -/
def value? (attributes : List DispositionAttribute) (key : AttributeKey) : Option String :=
  (attributes.find? fun own => own.key = key).map fun own => own.value.text

end DispositionAttribute

/-- The content disposition of a field with the given attributes. -/
def formDisposition (attributes : List DispositionAttribute) : Bytes :=
  Bytes.ofText "form-data" ++ attributes.flatMap DispositionAttribute.bytes

/-! ## Fields -/

/-- **Field as it is sent.** -/
structure SentField where
  attributes : List DispositionAttribute
  contentType : Option PlainMediaType
  content : Bytes

/-- **Header lines tell what a field is**: they have different names, and one of them is its content
disposition, with different keys; if one of them is a content type, it is its own, and otherwise it
has none. -/
structure SentField.IsToldBy (field : SentField) (lines : List HeaderLine) : Prop where
  once : (lines.map fun line => line.header.name).Nodup
  keysOnce : (field.attributes.map DispositionAttribute.key).Nodup
  disposed : ∃ line ∈ lines, line.header.name = "content-disposition".toList ∧
    line.value = formDisposition field.attributes
  typed : ∀ mediaType, field.contentType = some mediaType →
    ∃ line ∈ lines, line.header.name = "content-type".toList ∧ line.value = mediaType.bytes
  untyped : field.contentType = none →
    ∀ line ∈ lines, line.header.name ≠ "content-type".toList

/-- **The fields behind a delimiter.** Two hyphens end the form, and what follows them on later
lines does not count. Otherwise the line of the delimiter ends, perhaps with blanks, and at most
`room` header lines follow up to the first empty line, then the content up to the first delimiter at
the start of a line, and behind that the other fields. -/
inductive FieldsBehind (boundary : String) (room : Nat) : Bytes → List SentField → Prop
  | closed {epilogue : Bytes} (apart : epilogue = [] ∨ lineBreak <+: epilogue) :
      FieldsBehind boundary room (hyphens ++ epilogue) []
  | field {blanks following block behind rest : Bytes} {lines : List HeaderLine}
      {field : SentField} {fields : List SentField}
      (blank : ∀ byte ∈ blanks, PartHeader.isBlankByte byte = true)
      (headed : FirstAt (lineBreak ++ lineBreak) following block behind)
      (written : block ++ lineBreak = HeaderLine.block lines) (few : lines.length ≤ room)
      (told : field.IsToldBy lines)
      (ended : FirstAt (lineBreak ++ delimiter boundary) behind field.content rest)
      (others : FieldsBehind boundary room rest fields) :
      FieldsBehind boundary room (blanks ++ (lineBreak ++ following)) (field :: fields)

/-- **The fields that a body holds.** What comes before the first delimiter, which stands at the
start of a line, does not count. -/
def HoldsFields (boundary : String) (room : Nat) (body : Bytes) (fields : List SentField) : Prop :=
  ∃ preamble rest, FirstAt (delimiter boundary) body preamble rest ∧
    (preamble = [] ∨ lineBreak <:+ preamble) ∧ FieldsBehind boundary room rest fields

/-! ## Decoders -/

/-- The field is given as it was sent, its content in any chunks. -/
structure FormField.Carries (given : FormField) (sent : SentField) : Prop where
  name : given.name = DispositionAttribute.value? sent.attributes .name
  filename : given.filename = DispositionAttribute.value? sent.attributes .filename
  contentType : given.contentType = sent.contentType.map PlainMediaType.text
  body : ∃ chunks : List Bytes, chunks.flatten = sent.content ∧ given.body = chunks.map .ok

section Decoders

variable {δ : Type}

/-- The decoder gives fields as they were sent, one at each request, and then says that there are no
more. -/
def FormDecoder.Gives (decoder : FormDecoder δ) (state : δ) (fields : List SentField) : Prop :=
  ∃ given : List FormField, List.Forall₂ FormField.Carries given fields ∧
    ∀ n ≤ given.length, decoder.fields.answer state n = (given.map .ok)[n]?

/-- **A decoder conforms** to the protocol: of a body that holds fields with at most `room` header
lines each, it gives these fields, whatever the chunks in which the body arrives. -/
def FormDecoder.Conforms (decoder : FormDecoder δ) (room : Nat) : Prop :=
  ∀ (boundary : FormBoundary) (chunks : List Bytes) (fields : List SentField),
    HoldsFields boundary.text room chunks.flatten fields →
      decoder.Gives (decoder.start boundary.text chunks false) fields

variable {decoder : FormDecoder δ} {state : δ}

/-- A decoder that has ended gives no fields. -/
theorem FormDecoder.gives_nil (nothing : (decoder.fields.ask state).1 = none) :
    decoder.Gives state [] := by
  refine ⟨[], .nil, fun n within => ?_⟩
  obtain rfl := Nat.le_zero.mp within
  exact nothing

/-- A decoder gives fields when it gives the first at once and the others afterwards. -/
theorem FormDecoder.gives_cons {given : FormField} {field : SentField} {fields : List SentField}
    (first : (decoder.fields.ask state).1 = some (.ok given)) (carries : given.Carries field)
    (others : decoder.Gives (decoder.fields.ask state).2 fields) :
    decoder.Gives state (field :: fields) := by
  obtain ⟨rest, carriesRest, answers⟩ := others
  refine ⟨given :: rest, .cons carries carriesRest, fun n within => ?_⟩
  cases n with
  | zero => exact first
  | succ n => exact answers n (Nat.le_of_succ_le_succ within)

end Decoders

end ActionGateway
