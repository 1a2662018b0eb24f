import ActionGateway.Multipart.Reader
import ActionGateway.Proofs.WrittenText

/-!
# Headers that are read back

Reading the headers of a part takes back what has been written: a block of header lines is cut off
where the empty line is, and its lines are read as its headers. Where a mark first occurs is said
without a search (`FirstAt`), and the search finds just that place (`splitAtMark_eq_some_iff`).
-/

namespace ActionGateway

/-! ## ASCII text -/

namespace Bytes

/-- ASCII text has a byte for each character. -/
theorem ofText_of_ascii {text : String} (ascii : ∀ c ∈ text.toList, c.toNat < 0x80) :
    ofText text = text.toList.map PartHeader.octet := by
  rw [ofText]
  generalize text.toList = chars at ascii
  induction chars with
  | nil => rfl
  | cons c rest ih =>
      obtain ⟨own, others⟩ := List.forall_mem_cons.mp ascii
      have single : c.utf8Size = 1 := by
        rw [Char.utf8Size_eq_one_iff, UInt32.le_iff_toNat_le]
        exact Nat.le_of_lt_succ own
      rw [List.flatMap_cons, String.utf8EncodeChar_eq_singleton single, ih others]
      rfl

/-- The byte of an ASCII character has the number of the character. -/
theorem toNat_octet {c : Char} (ascii : c.toNat < 0x80) :
    (PartHeader.octet c).toNat = c.toNat := by
  rw [PartHeader.octet, Char.toUInt8, UInt32.toNat_toUInt8]
  exact Nat.mod_eq_of_lt (Nat.lt_trans ascii (by decide))

/-- Each byte of an ASCII text comes from a character of it. -/
theorem exists_char_of_mem_ofText {text : String} (ascii : ∀ c ∈ text.toList, c.toNat < 0x80)
    {byte : UInt8} (member : byte ∈ ofText text) : ∃ c ∈ text.toList, byte.toNat = c.toNat := by
  rw [ofText_of_ascii ascii] at member
  obtain ⟨c, inside, rfl⟩ := List.mem_map.mp member
  exact ⟨c, inside, toNat_octet (ascii c inside)⟩

end Bytes

/-! ## The first occurrence of a mark -/

/-- **The first occurrence of a mark** in some bytes is behind those before and in front of those
after. -/
structure FirstAt (mark bytes before after : Bytes) : Prop where
  split : bytes = before ++ (mark ++ after)
  first : ∀ sooner rest, bytes = sooner ++ (mark ++ rest) → before.length ≤ sooner.length

namespace Multipart

variable {mark : Bytes}

/-- The search passes a byte where the mark does not start. -/
theorem splitAtMark_cons_of_absent {byte : UInt8} {rest : Bytes} (before : Bytes)
    (absent : ¬ mark <+: byte :: rest) :
    splitAtMark mark before (byte :: rest) = splitAtMark mark (byte :: before) rest := by
  rw [splitAtMark, if_neg]
  rwa [List.isPrefixOf_iff_prefix]

/-- The search ends where the mark stands. -/
theorem splitAtMark_mark (some_ : mark ≠ []) (before rest : Bytes) :
    splitAtMark mark before (mark ++ rest) = some (before.reverse, rest) := by
  cases mark with
  | nil => exact absurd rfl some_
  | cons first others =>
      have found : (first :: others).isPrefixOf (first :: (others ++ rest)) = true :=
        List.isPrefixOf_iff_prefix.mpr (List.prefix_append _ rest)
      rw [List.cons_append, splitAtMark, if_pos found]
      simp

/-- A prefix does not reach past a byte that it does not hold. -/
theorem prefix_of_prefix_append_cons {byte : UInt8} {passed rest : Bytes} (absent : byte ∉ mark)
    (found : mark <+: passed ++ byte :: rest) : mark <+: passed := by
  rcases Nat.le_total mark.length passed.length with short | long
  · exact List.prefix_of_prefix_length_le found (List.prefix_append passed _) short
  · obtain ⟨more, rfl⟩ :=
      List.prefix_of_prefix_length_le (List.prefix_append passed _) found long
    rw [List.prefix_append_right_inj] at found
    cases more with
    | nil => exact (List.append_nil passed).symm ▸ List.prefix_rfl
    | cons next more =>
        obtain rfl := (List.cons_prefix_cons.mp found).1
        exact (absent (List.mem_append_right passed List.mem_cons_self)).elim

/-- No mark starts before the first byte of one. -/
theorem splitAtMark_append_of_not_mem {first : UInt8} (others before : Bytes) {passed : Bytes}
    (absent : first ∉ passed) (rest : Bytes) :
    splitAtMark (first :: others) before (passed ++ rest) =
      splitAtMark (first :: others) (passed.reverse ++ before) rest := by
  induction passed generalizing before with
  | nil => rfl
  | cons byte passed ih =>
      have other : ¬ first :: others <+: byte :: (passed ++ rest) := by
        intro found
        exact absent (List.mem_cons.mpr (.inl (List.cons_prefix_cons.mp found).1))
      rw [List.cons_append, splitAtMark_cons_of_absent before other,
        ih (byte :: before) fun member => absent (List.mem_cons_of_mem byte member),
        List.reverse_cons, List.append_assoc, List.singleton_append]

/-- A mark whose first byte occurs in it only once is found behind what does not hold it: it does
not start before, because it would start again within itself. -/
theorem splitAtMark_append_of_not_infix {first : UInt8} {others : Bytes} (once : first ∉ others)
    (before : Bytes) {passed : Bytes} (absent : ¬ first :: others <:+: passed) (rest : Bytes) :
    splitAtMark (first :: others) before (passed ++ (first :: others ++ rest)) =
      some (before.reverse ++ passed, rest) := by
  induction passed generalizing before with
  | nil =>
      rw [List.append_nil]
      exact splitAtMark_mark (List.cons_ne_nil first others) before rest
  | cons byte passed ih =>
      have other : ¬ first :: others <+: byte :: (passed ++ (first :: others ++ rest)) := by
        intro found
        obtain ⟨same, tail⟩ := List.cons_prefix_cons.mp found
        have inside := prefix_of_prefix_append_cons once tail
        exact absent (List.cons_prefix_cons.mpr ⟨same, inside⟩).isInfix
      rw [List.cons_append, splitAtMark_cons_of_absent before other,
        ih (byte :: before) fun inside => absent (List.infix_cons inside), List.reverse_cons,
        List.append_assoc, List.singleton_append]

/-- The search finds the first occurrence, and what it has passed comes before. -/
theorem splitAtMark_of_firstAt (some_ : mark ≠ []) (passed : Bytes) {bytes before after : Bytes}
    (found : FirstAt mark bytes before after) :
    splitAtMark mark passed bytes = some (passed.reverse ++ before, after) := by
  obtain ⟨rfl, first⟩ := found
  induction before generalizing passed with
  | nil =>
      rw [List.append_nil]
      exact splitAtMark_mark some_ passed after
  | cons byte before ih =>
      have absent : ¬ mark <+: byte :: (before ++ (mark ++ after)) := by
        rintro ⟨rest, shape⟩
        exact absurd (first [] rest shape.symm) (Nat.not_succ_le_zero _)
      have later : ∀ sooner rest, before ++ (mark ++ after) = sooner ++ (mark ++ rest) →
          before.length ≤ sooner.length := fun sooner rest shape =>
        Nat.le_of_succ_le_succ (first (byte :: sooner) rest (congrArg (byte :: ·) shape))
      rw [List.cons_append, splitAtMark_cons_of_absent passed absent, ih (byte :: passed) later,
        List.reverse_cons, List.append_assoc, List.singleton_append]

/-- What precedes the bytes is only handed on. -/
theorem splitAtMark_eq_map (before bytes : Bytes) :
    splitAtMark mark before bytes =
      (splitAtMark mark [] bytes).map fun found => (before.reverse ++ found.1, found.2) := by
  induction bytes generalizing before with
  | nil => rfl
  | cons byte rest ih =>
      simp only [splitAtMark]
      split
      · simp
      · rw [ih (byte :: before), ih [byte], Option.map_map]
        simp [Function.comp_def]

/-- What the search finds is the first occurrence. -/
theorem firstAt_of_splitAtMark {bytes before after : Bytes}
    (found : splitAtMark mark [] bytes = some (before, after)) :
    FirstAt mark bytes before after := by
  induction bytes generalizing before after with
  | nil => exact nomatch found
  | cons byte rest ih =>
      by_cases starts : mark <+: byte :: rest
      · rw [splitAtMark, if_pos (List.isPrefixOf_iff_prefix.mpr starts)] at found
        cases found
        obtain ⟨after, shape⟩ := starts
        rw [← shape, List.drop_left]
        exact ⟨rfl, fun _ _ _ => Nat.zero_le _⟩
      · rw [splitAtMark_cons_of_absent [] starts, splitAtMark_eq_map] at found
        obtain ⟨⟨more, behind⟩, later, same⟩ := Option.map_eq_some_iff.mp found
        cases same
        obtain ⟨rfl, first⟩ := ih later
        refine ⟨rfl, fun sooner others shape => ?_⟩
        cases sooner with
        | nil => exact (starts ⟨others, shape.symm⟩).elim
        | cons next sooner =>
            exact Nat.succ_le_succ (first sooner others (List.cons.inj shape).2)

end Multipart

/-! ## Header lines -/

namespace PartHeader

/-- Visible bytes and blanks can stand in a header. -/
theorem isValueByte_of_visible {byte : UInt8} (low : 0x20 ≤ byte.toNat)
    (high : byte.toNat ≤ 0x7E) : isValueByte byte = true := by
  have printed : 0x20 ≤ byte := UInt8.le_iff_toNat_le.mpr low
  have notDelete : byte ≠ 0x7F := by
    rintro rfl
    exact absurd high (by decide)
  simp [isValueByte, printed, notDelete]

/-- A value without blanks at either end is left as it is. -/
theorem trimmed_of_ends {value : Bytes} (starts : value.dropWhile isBlankByte = value)
    (ends : value.reverse.dropWhile isBlankByte = value.reverse) : trimmed value = value := by
  rw [trimmed, starts, ends, List.reverse_reverse]

/-- A visible value is left as it is. -/
theorem trimmed_of_visible {value : Bytes} (visible : ∀ byte ∈ value, 0x21 ≤ byte.toNat) :
    trimmed value = value := by
  have kept {bytes : Bytes} (visible : ∀ byte ∈ bytes, 0x21 ≤ byte.toNat) :
      bytes.dropWhile isBlankByte = bytes := by
    cases bytes with
    | nil => rfl
    | cons byte rest =>
        refine List.dropWhile_cons_of_neg fun blank => ?_
        have low := visible byte List.mem_cons_self
        rw [isBlankByte, Bool.or_eq_true, beq_iff_eq, beq_iff_eq] at blank
        rcases blank with rfl | rfl
        · exact absurd low (by decide)
        · exact absurd low (by decide)
  exact trimmed_of_ends (kept visible) (kept fun byte member =>
    visible byte (List.mem_reverse.mp member))

end PartHeader

/-- **Header line**: a name, and a value with no blanks at either end. -/
structure HeaderLine where
  name : Bytes
  value : Bytes
  named : name ≠ []
  name_bytes : ∀ byte ∈ name, PartHeader.isNameByte byte = true
  value_bytes : ∀ byte ∈ value, PartHeader.isValueByte byte = true
  trimmed : PartHeader.trimmed value = value

namespace HeaderLine

open Multipart PartHeader

/-- The bytes of a line without its line break. -/
def bytes (line : HeaderLine) : Bytes := line.name ++ 0x3A :: 0x20 :: line.value

/-- The header that the line is read as. -/
def header (line : HeaderLine) : PartHeader :=
  ⟨line.name.map fun byte => (Char.ofNat byte.toNat).toLower, line.value⟩

/-- Lines, each with its line break. -/
def block (lines : List HeaderLine) : Bytes :=
  lines.flatMap fun line => line.bytes ++ lineBreak

/-- A line holds no carriage return. -/
theorem not_mem_bytes (line : HeaderLine) : 0x0D ∉ line.bytes := by
  intro member
  rw [bytes, List.mem_append, List.mem_cons, List.mem_cons] at member
  rcases member with inName | colon | space | inValue
  · exact absurd (line.name_bytes _ inName) (by decide)
  · exact absurd colon (by decide)
  · exact absurd space (by decide)
  · exact absurd (line.value_bytes _ inValue) (by decide)

/-- A line starts with a byte of its name. -/
theorem exists_bytes_eq_cons (line : HeaderLine) :
    ∃ first rest, line.bytes = first :: rest ∧ isNameByte first = true := by
  obtain ⟨first, rest, shape⟩ := List.exists_cons_of_ne_nil line.named
  refine ⟨first, rest ++ 0x3A :: 0x20 :: line.value, ?_, ?_⟩
  · rw [bytes, shape]
    rfl
  · exact line.name_bytes first (shape ▸ List.mem_cons_self)

/-- No line break stands where a line starts. -/
theorem afterBreak?_bytes (line : HeaderLine) (rest : Bytes) :
    afterBreak? (line.bytes ++ rest) = none := by
  obtain ⟨first, others, shape, inName⟩ := line.exists_bytes_eq_cons
  rw [shape, List.cons_append, afterBreak?.eq_def]
  split
  next same =>
    obtain ⟨rfl, -⟩ := List.cons.inj same
    exact absurd inName (by decide)
  next same =>
    obtain ⟨rfl, -⟩ := List.cons.inj same
    exact absurd inName (by decide)
  next => rfl

/-- A line is read as its header, whatever follows. -/
theorem first?_bytes (line : HeaderLine) (rest : Bytes) :
    first? (line.bytes ++ lineBreak ++ rest) = some (line.header, rest) := by
  have names : (line.bytes ++ lineBreak ++ rest).takeWhile isNameByte = line.name := by
    rw [bytes, List.append_assoc, List.append_assoc, List.takeWhile_append_of_pos line.name_bytes]
    exact List.append_nil line.name
  have remains : (line.bytes ++ lineBreak ++ rest).drop line.name.length =
      0x3A :: (0x20 :: line.value ++ lineBreak ++ rest) := by
    rw [bytes, List.append_assoc, List.append_assoc, List.drop_left]
    simp
  have inValue : ∀ byte ∈ 0x20 :: line.value, isValueByte byte = true :=
    List.forall_mem_cons.mpr ⟨by decide, line.value_bytes⟩
  have values : (0x20 :: line.value ++ lineBreak ++ rest).takeWhile isValueByte =
      0x20 :: line.value := by
    rw [List.append_assoc, List.takeWhile_append_of_pos inValue]
    exact List.append_nil _
  have trimmed : PartHeader.trimmed (0x20 :: line.value) = line.value := line.trimmed
  have present : line.name.isEmpty = false := List.isEmpty_eq_false_iff.mpr line.named
  simp only [first?, names, present, remains, values, trimmed, Bool.false_eq_true, ↓reduceIte]
  rw [List.append_assoc, List.drop_left]
  rfl

/-- The lines of a block are read as its headers, if there is room for them. -/
theorem list?_block {room : Nat} {lines : List HeaderLine} (fits : lines.length ≤ room) :
    list? room (block lines ++ lineBreak) = some (lines.map header) := by
  induction lines generalizing room with
  | nil =>
      rw [list?.eq_def]
      rfl
  | cons line rest ih =>
      cases room with
      | zero => exact absurd fits (Nat.not_succ_le_zero rest.length)
      | succ room =>
          have shape : block (line :: rest) ++ lineBreak =
              line.bytes ++ lineBreak ++ (block rest ++ lineBreak) := by
            simp [block, List.append_assoc]
          have unbroken : afterBreak? (line.bytes ++ lineBreak ++ (block rest ++ lineBreak)) =
              none := by
            rw [List.append_assoc]
            exact line.afterBreak?_bytes _
          rw [list?.eq_def, shape]
          simp only [unbroken, line.first?_bytes, ih (Nat.le_of_succ_le_succ fits), bind,
            Option.bind, List.map_cons]

/-- A line break is not the start of an empty line if another byte follows. -/
theorem splitAtMark_lineBreak {first : UInt8} (noReturn : first ≠ 0x0D) (before more : Bytes) :
    splitAtMark (lineBreak ++ lineBreak) before (lineBreak ++ first :: more) =
      splitAtMark (lineBreak ++ lineBreak) (lineBreak.reverse ++ before) (first :: more) := by
  have noEmptyLine : ¬ lineBreak ++ lineBreak <+: 0x0D :: 0x0A :: first :: more := by
    intro found
    have tail := (List.cons_prefix_cons.mp (List.cons_prefix_cons.mp found).2).2
    exact noReturn (List.cons_prefix_cons.mp tail).1.symm
  have within : ¬ lineBreak ++ lineBreak <+: 0x0A :: first :: more := by
    intro found
    exact absurd (List.cons_prefix_cons.mp found).1 (by decide)
  exact (splitAtMark_cons_of_absent before noEmptyLine).trans
    (splitAtMark_cons_of_absent (0x0D :: before) within)

/-- A block of lines ends at its empty line: no line has a line break in it, and each starts with a
byte of a name. -/
theorem splitAtMark_block {lines : List HeaderLine} (some_ : lines ≠ []) (before rest : Bytes) :
    ∃ start, start ++ lineBreak = block lines ∧
      splitAtMark (lineBreak ++ lineBreak) before (block lines ++ lineBreak ++ rest) =
        some (before.reverse ++ start, rest) := by
  induction lines generalizing before with
  | nil => exact absurd rfl some_
  | cons line others ih =>
      have skipped (rest : Bytes) :
          splitAtMark (lineBreak ++ lineBreak) before (line.bytes ++ rest) =
            splitAtMark (lineBreak ++ lineBreak) (line.bytes.reverse ++ before) rest :=
        splitAtMark_append_of_not_mem [0x0A, 0x0D, 0x0A] before line.not_mem_bytes rest
      cases others with
      | nil =>
          refine ⟨line.bytes, by simp [block], ?_⟩
          have shape : block [line] ++ lineBreak ++ rest =
              line.bytes ++ (lineBreak ++ lineBreak ++ rest) := by
            simp [block]
          rw [shape, skipped, splitAtMark_mark (by decide)]
          simp
      | cons next others =>
          obtain ⟨first, more, starts, inName⟩ := next.exists_bytes_eq_cons
          have noReturn : first ≠ 0x0D := by
            rintro rfl
            exact absurd inName (by decide)
          obtain ⟨start, whole, found⟩ := ih (List.cons_ne_nil next others)
            (lineBreak.reverse ++ (line.bytes.reverse ++ before))
          have nextStarts : block (next :: others) ++ lineBreak ++ rest =
              first :: (more ++ lineBreak ++ block others ++ lineBreak ++ rest) := by
            simp [block, starts]
          have shape : block (line :: next :: others) ++ lineBreak ++ rest =
              line.bytes ++ (lineBreak ++ (block (next :: others) ++ lineBreak ++ rest)) := by
            simp [block]
          refine ⟨line.bytes ++ lineBreak ++ start, ?_, ?_⟩
          · rw [List.append_assoc, whole]
            simp [block]
          · rw [shape, skipped, nextStarts, splitAtMark_lineBreak noReturn, ← nextStarts, found]
            simp

end HeaderLine

end ActionGateway
