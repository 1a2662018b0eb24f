import ActionGateway.Proofs.FormProtocol
import Mathlib.Data.List.Nodup

/-!
# A decoder that conforms

The attributes of a content disposition can be read by cutting it at its quotes: in front of each
value stands its key. A reader of bodies that reads attributes this way conforms to the protocol.
-/

namespace ActionGateway

open Multipart

/-! ## Attributes between quotes -/

namespace Disposition

/-- What stands in front of a quoted value, and the value. -/
def quotedPairs : List Bytes → List (Bytes × Bytes)
  | opening :: value :: rest => (opening, value) :: quotedPairs rest
  | _ => []

/-- The last word of the bytes, behind blanks and semicolons. -/
def lastWord (bytes : Bytes) : Bytes :=
  (bytes.reverse.takeWhile fun byte => byte != 0x20 && byte != 0x3B).reverse

/-- The first quoted value behind a key and an equals sign, as text. -/
def quotedAttribute? (disposition : Bytes) (key : String) : Option String :=
  ((quotedPairs (disposition.splitOnP (· == 0x22))).find? fun pair =>
    lastWord pair.1 == Bytes.ofText (key ++ "=")).bind fun pair => Bytes.text? pair.2

/-- The last word in front of a value is its key, whatever comes before the attribute. -/
theorem lastWord_opening (before : Bytes) (own : DispositionAttribute) :
    lastWord (before ++ own.opening) = Bytes.ofText (own.key.text ++ "=") := by
  have word : ∀ byte ∈ (Bytes.ofText (own.key.text ++ "=")).reverse,
      (byte != 0x20 && byte != 0x3B) = true := by
    cases own.key <;> exact List.all_eq_true.mp rfl
  have ends : (List.replicate own.blanks (0x20 : UInt8) ++ 0x3B :: before.reverse).takeWhile
      (fun byte => byte != 0x20 && byte != 0x3B) = [] := by
    cases own.blanks <;> rfl
  have shape : (before ++ own.opening).reverse =
      (Bytes.ofText (own.key.text ++ "=")).reverse ++
        (List.replicate own.blanks 0x20 ++ 0x3B :: before.reverse) := by
    simp [DispositionAttribute.opening]
  rw [lastWord, shape, List.takeWhile_append_of_pos word, ends, List.append_nil,
    List.reverse_reverse]

theorem ofText_key_inj {key other : AttributeKey} :
    Bytes.ofText (key.text ++ "=") = Bytes.ofText (other.text ++ "=") ↔ key = other := by
  cases key <;> cases other <;> decide

/-- No byte is a quote. -/
theorem unquoted_of_all {bytes : Bytes} (all : (bytes.all fun byte => byte != 0x22) = true) :
    ∀ byte ∈ bytes, (byte == 0x22) = false := by
  intro byte member
  have other := List.all_eq_true.mp all byte member
  rwa [bne, Bool.not_eq_true'] at other

theorem not_quote_opening (own : DispositionAttribute) :
    ∀ byte ∈ own.opening, (byte == 0x22) = false := by
  refine List.forall_mem_cons.mpr ⟨rfl, List.forall_mem_append.mpr ⟨?_, ?_⟩⟩
  · intro byte member
    rw [List.eq_of_mem_replicate member]
    rfl
  · cases own.key <;> exact unquoted_of_all rfl

/-- Cut at its quotes, a disposition gives each attribute with what stands in front of it. The
induction is on the attributes; `before` is what stands in front of the first one. -/
theorem find?_quotedPairs (attributes : List DispositionAttribute) (key : AttributeKey)
    {before : Bytes} (unquoted : ∀ byte ∈ before, (byte == 0x22) = false) :
    ((quotedPairs ((before ++ attributes.flatMap DispositionAttribute.bytes).splitOnP
        (· == 0x22))).find? fun pair =>
      lastWord pair.1 == Bytes.ofText (key.text ++ "=")).bind (fun pair => Bytes.text? pair.2) =
        DispositionAttribute.value? attributes key := by
  induction attributes generalizing before with
  | nil =>
      rw [List.flatMap_nil, List.append_nil, List.splitOnP_eq_singleton unquoted]
      rfl
  | cons own rest ih =>
      have opening : ∀ byte ∈ before ++ own.opening, (byte == 0x22) = false :=
        List.forall_mem_append.mpr ⟨unquoted, not_quote_opening own⟩
      have value : ∀ byte ∈ own.value.bytes, (byte == 0x22) = false := fun byte member =>
        beq_false_of_ne (own.value.visible_bytes byte member).2.2
      have shape : before ++ (own :: rest).flatMap DispositionAttribute.bytes =
          (before ++ own.opening) ++ 0x22 ::
            (own.value.bytes ++ 0x22 :: rest.flatMap DispositionAttribute.bytes) := by
        simp [DispositionAttribute.bytes]
      rw [shape, List.splitOnP_append_cons_of_forall_mem opening _ (beq_self_eq_true _),
        List.splitOnP_append_cons_of_forall_mem value _ (beq_self_eq_true _), quotedPairs,
        List.find?_cons, lastWord_opening, DispositionAttribute.value?, List.find?_cons]
      by_cases same : own.key = key
      · rw [ofText_key_inj.mpr same, beq_self_eq_true, decide_eq_true same]
        exact own.value.text?_bytes
      · rw [beq_false_of_ne (mt ofText_key_inj.mp same), decide_eq_false same]
        exact @ih [] fun _ member => (List.not_mem_nil member).elim

/-- **Attributes are read as they are written.** -/
theorem quotedAttribute?_formDisposition (attributes : List DispositionAttribute)
    (key : AttributeKey) :
    quotedAttribute? (formDisposition attributes) key.text =
      DispositionAttribute.value? attributes key :=
  find?_quotedPairs attributes key (unquoted_of_all rfl)

end Disposition

/-! ## Headers -/

namespace SentField.IsToldBy

open PartHeader

variable {field : SentField} {lines : List HeaderLine} (told : field.IsToldBy lines)

include told

/-- The value of the one line with a name. -/
theorem value?_of_mem {line : HeaderLine} (member : line ∈ lines) {name : String}
    (named : line.header.name = name.toList) :
    value? (lines.map HeaderLine.header) name = some line.value := by
  have distinct : ((lines.map HeaderLine.header).map PartHeader.name).Nodup := by
    rw [List.map_map]
    exact told.once
  have present : line.header ∈ (lines.map HeaderLine.header).reverse :=
    List.mem_reverse.mpr (List.mem_map_of_mem member)
  have isSome : ((lines.map HeaderLine.header).reverse.find? fun header =>
      header.name == name.toList).isSome := by
    rw [List.find?_isSome]
    exact ⟨line.header, present, beq_iff_eq.mpr named⟩
  obtain ⟨header, found⟩ := Option.isSome_iff_exists.mp isSome
  have held := List.mem_reverse.mp (List.mem_of_find?_eq_some found)
  have same : header.name = name.toList := by simpa using List.find?_some found
  have own : header = line.header :=
    List.inj_on_of_nodup_map distinct held (List.mem_reverse.mp present) (same.trans named.symm)
  rw [value?, found, own]
  rfl

/-- The field that is read from the header lines of a field is that field. -/
theorem carries_field :
    (Multipart.field Disposition.quotedAttribute? (lines.map HeaderLine.header)
      (some field.content)).Carries field := by
  obtain ⟨line, member, named, value⟩ := told.disposed
  have disposition := told.value?_of_mem member named
  rw [value] at disposition
  have contentType : ((value? (lines.map HeaderLine.header) "content-type").bind fun value =>
      if value.all fun byte => byte == 0x09 || (0x20 ≤ byte && byte < 0x7F) then
        ((Bytes.text? value).bind MediaType.ofText?).map MediaType.text
      else none) = field.contentType.map PlainMediaType.text := by
    cases own : field.contentType with
    | none =>
        have absent : value? (lines.map HeaderLine.header) "content-type" = none := by
          rw [value?, List.find?_eq_none.mpr]
          · rfl
          · intro header held same
            obtain ⟨line, member, rfl⟩ := List.mem_map.mp (List.mem_reverse.mp held)
            exact told.untyped own line member (beq_iff_eq.mp same)
        rw [absent]
        rfl
    | some mediaType =>
        obtain ⟨line, member, named, value⟩ := told.typed mediaType own
        have typed := told.value?_of_mem member named
        rw [value] at typed
        simp only [typed, Option.bind_some, mediaType.all_printed, ↓reduceIte,
          mediaType.text?_bytes, mediaType.ofText?_text, Option.map_some]
  refine ⟨?_, ?_, contentType, [field.content], List.flatten_singleton, rfl⟩
  · simp only [Multipart.field, disposition, Option.bind_some]
    exact Disposition.quotedAttribute?_formDisposition field.attributes .name
  · simp only [Multipart.field, disposition, Option.bind_some]
    exact Disposition.quotedAttribute?_formDisposition field.attributes .filename

end SentField.IsToldBy

/-! ## Bodies -/

namespace Multipart

open PartHeader

variable {boundary : String}

/-- What follows a delimiter is taken apart where the protocol says. -/
theorem continuation_field {blanks following block behind rest : Bytes} {lines : List HeaderLine}
    {content : Bytes} (blank : ∀ byte ∈ blanks, isBlankByte byte = true)
    (headed : FirstAt (lineBreak ++ lineBreak) following block behind)
    (written : block ++ lineBreak = HeaderLine.block lines) (few : lines.length ≤ maxCount)
    (ended : FirstAt (lineBreak ++ delimiter boundary) behind content rest) :
    continuation boundary (blanks ++ (lineBreak ++ following)) =
      .field (lines.map HeaderLine.header) content rest := by
  have nonempty : ((blanks ++ (lineBreak ++ following)).drop 1).isEmpty = false := by
    cases blanks with
    | nil => rfl
    | cons byte blanks => cases blanks <;> rfl
  have open_ : after? hyphens (blanks ++ (lineBreak ++ following)) = none := by
    cases blanks with
    | nil => rfl
    | cons byte blanks =>
        have own := blank byte List.mem_cons_self
        refine if_neg fun starts => ?_
        obtain rfl := (List.cons_prefix_cons.mp (List.isPrefixOf_iff_prefix.mp starts)).1
        exact absurd own (by decide)
  have unblank : (blanks ++ (lineBreak ++ following)).dropWhile isBlankByte =
      lineBreak ++ following :=
    List.dropWhile_append_of_pos blank
  have line : after? lineBreak (lineBreak ++ following) = some following := rfl
  have headers : splitAtMark (lineBreak ++ lineBreak) [] following = some (block, behind) :=
    splitAtMark_of_firstAt (by decide) [] headed
  have read : ofBlock? (block ++ lineBreak ++ lineBreak) = some (lines.map HeaderLine.header) := by
    rw [written]
    exact HeaderLine.list?_block few
  have body : splitAtMark (lineBreak ++ delimiter boundary) [] behind = some (content, rest) :=
    splitAtMark_of_firstAt (List.cons_ne_nil _ _) [] ended
  simp only [continuation, nonempty, open_, unblank, line, headers, read, body,
    Bool.false_eq_true, ↓reduceIte]

/-- **The fields behind a delimiter are given** from where the delimiter has been read. The
induction is on how the protocol finds them. -/
theorem gives_of_fieldsBehind {bytes : Bytes} {fields : List SentField}
    (behind : FieldsBehind boundary maxCount bytes fields) {state : Progress}
    (asked : (reader Disposition.quotedAttribute?).fields.ask state =
      (continuation boundary bytes).decoded Disposition.quotedAttribute? boundary) :
    (reader Disposition.quotedAttribute?).Gives state fields := by
  induction behind generalizing state with
  | closed _ => exact FormDecoder.gives_nil (congrArg Prod.fst asked)
  | @field blanks following block behind rest lines field fields blank headed written few told ended
      _ ih =>
      rw [continuation_field blank headed written few ended] at asked
      refine FormDecoder.gives_cons (congrArg Prod.fst asked) told.carries_field ?_
      rw [congrArg Prod.snd asked]
      exact ih rfl

/-- **A reader that cuts dispositions at their quotes conforms.** -/
theorem conforms_reader : (reader Disposition.quotedAttribute?).Conforms maxCount := by
  rintro boundary chunks fields ⟨preamble, rest, opened, -, behind⟩
  have found : splitAtMark (delimiter boundary.text) [] chunks.flatten = some (preamble, rest) :=
    splitAtMark_of_firstAt (List.cons_ne_nil _ _) [] opened
  refine gives_of_fieldsBehind behind ?_
  have start : (reader Disposition.quotedAttribute?).start boundary.text chunks false =
      .unread boundary.text chunks.flatten := rfl
  rw [start]
  simp only [reader, found]

end Multipart

end ActionGateway
