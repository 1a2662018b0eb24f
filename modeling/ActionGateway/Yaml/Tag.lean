import ActionGateway.Bytes
import ActionGateway.Number.Literal
import ActionGateway.Yaml.Cursor

/-! # YAML tags and directives

A tag is written as a handle, for which a document may declare what it stands for, and a suffix;
or verbatim between angle brackets. Octets of a tag may be written in hexadecimal digits after
percent signs, in groups that have the shape of a character in UTF-8. That a group is a character
is not asked for, so a tag is a sequence of octets and not always a text.
-/

namespace ActionGateway.Yaml

/-- **Tag.** -/
abbrev Tag := Bytes

namespace Tag

/-- The tag of a kind of values in the core schema. -/
def core (kind : String) : Tag :=
  Bytes.ofText ("tag:yaml.org,2002:" ++ kind)

/-- A tag that means something to one application only starts with an exclamation mark. -/
def isLocal (tag : Tag) : Bool :=
  tag.head? == some 0x21

/-- A local tag that is a text names a type of the application. -/
def namesType (tag : Tag) : Bool :=
  tag.isLocal && (Bytes.text? tag).isSome

/-- What counts of the octets that are written: those before the first that is zero. -/
def untilZero (octets : Bytes) : Tag :=
  octets.takeWhile (· != 0)

end Tag

/-- **Tag as written.** A verbatim tag has an empty handle. -/
structure TagName where
  handle : String
  suffix : Tag
  deriving DecidableEq, Repr

/-- A character that may stand in a tag as it is. -/
def isTagChar (verbatim : Bool) (c : Char) : Bool :=
  isNameChar c || [';', '/', '?', ':', '@', '&', '=', '+', '$', '.', '!', '~', '*', '\x27',
    '(', ')'].contains c || (verbatim && [',', '[', ']'].contains c)

/-- An octet written as a percent sign and two hexadecimal digits, at the start of the text. -/
def codedOctet? : List Char → Option UInt8
  | '%' :: high :: low :: _ => (Literal.digits? 16 [high, low]).map UInt8.ofNat
  | _ => none

/-- How many octets are in the group whose first octet is given. -/
def octetCount? (first : UInt8) : Option Nat :=
  if first < 0x80 then some 1
  else if first &&& 0xE0 = 0xC0 then some 2
  else if first &&& 0xF0 = 0xE0 then some 3
  else if first &&& 0xF8 = 0xF0 then some 4
  else none

/-- That many coded octets at the start of the text, none of them the first of a group. -/
def laterOctets? : Nat → List Char → Option Bytes
  | 0, _ => some []
  | count + 1, text => do
    let octet ← codedOctet? text
    if octet &&& 0xC0 = 0x80 then
      let octets ← laterOctets? count (text.drop 3)
      some (octet :: octets)
    else none

/-- A coded group at the start of the text. -/
def codedGroup? (text : List Char) : Option Bytes := do
  let first ← codedOctet? text
  let count ← octetCount? first
  let later ← laterOctets? (count - 1) (text.drop 3)
  some (first :: later)

/-- The octets of a tag, and how many characters they take. The next `skip` characters belong
to a coded group. -/
def tagOctets? (verbatim : Bool) : Nat → List Char → Option (Bytes × Nat)
  | _, [] => some ([], 0)
  | skip + 1, _ :: rest => tagOctets? verbatim skip rest
  | 0, c :: rest =>
    if c = '%' then do
      let group ← codedGroup? (c :: rest)
      let (after, length) ← tagOctets? verbatim (3 * group.length - 1) rest
      some (group ++ after, 3 * group.length + length)
    else if isTagChar verbatim c then do
      let (after, length) ← tagOctets? verbatim 0 rest
      some (String.utf8EncodeChar c ++ after, 1 + length)
    else some ([], 0)

/-- A handle after its first exclamation mark: name characters and perhaps a second mark. -/
def handleAfterMark (cursor : Cursor) : List Char × Cursor :=
  let name := cursor.word isNameChar
  let cursor := cursor.skip name.length
  if cursor.rest.head? = some '!' then ('!' :: name ++ ['!'], cursor.skip 1)
  else ('!' :: name, cursor)

/-- A tag after its first exclamation mark. -/
def tagAfterMark? (cursor : Cursor) : Option (TagName × Cursor) := do
  match cursor.rest with
  | '<' :: _ =>
    let cursor := cursor.skip 1
    let (suffix, size) ← tagOctets? true 0 cursor.rest
    let cursor := cursor.skip size
    if suffix.isEmpty ∨ cursor.rest.head? ≠ some '>' then none
    else some (⟨"", Tag.untilZero suffix⟩, cursor.skip 1)
  | _ =>
    let (handle, cursor) := handleAfterMark cursor
    let (suffix, size) ← tagOctets? false 0 cursor.rest
    let cursor := cursor.skip size
    if 1 < handle.length ∧ handle.getLast? = some '!' then
      if suffix.isEmpty then none
      else some (⟨String.ofList handle, Tag.untilZero suffix⟩, cursor)
    else
      match Tag.untilZero (Bytes.ofText (String.ofList (handle.drop 1)) ++ suffix) with
      | [] => some (⟨"", Bytes.ofText "!"⟩, cursor)
      | suffix => some (⟨"!", suffix⟩, cursor)

/-- A tag with what has to follow it: the end of a word, or a comma inside brackets. -/
def tag? (inFlow : Bool) (cursor : Cursor) : Option (TagName × Cursor) :=
  (tagAfterMark? cursor).filter fun found =>
    atWordEnd found.2.rest || (inFlow && found.2.rest.head? == some ',')

/-! ## Directives -/

/-- **Directive** in front of a document. -/
inductive Directive where
  /-- The version of the language. -/
  | version (major minor : Nat)
  /-- What a handle stands for in tags. -/
  | tagHandle (handle : String) (meaning : Tag)
  deriving DecidableEq, Repr

/-- A number of at most nine digits. -/
def versionNumber? (cursor : Cursor) : Option (Nat × Cursor) :=
  let digits := cursor.word Literal.isDigit
  if digits.isEmpty ∨ 9 < digits.length then none
  else some (Literal.digitsValue digits, cursor.skip digits.length)

/-- Two numbers with a point between. -/
def version? (cursor : Cursor) : Option (Directive × Cursor) := do
  let (major, cursor) ← versionNumber? (cursor.skipWhile isBlank)
  if cursor.rest.head? = some '.' then
    let (minor, cursor) ← versionNumber? (cursor.skip 1)
    some (.version major minor, cursor)
  else none

/-- A handle and what it stands for. -/
def tagHandle? (cursor : Cursor) : Option (Directive × Cursor) := do
  let cursor := cursor.skipWhile isBlank
  if cursor.rest.head? ≠ some '!' then none
  else
    let (handle, cursor) := handleAfterMark (cursor.skip 1)
    let closed := handle = ['!'] ∨ (1 < handle.length ∧ handle.getLast? = some '!')
    if closed ∧ cursor.rest.head?.any isBlank then
      let cursor := cursor.skipWhile isBlank
      let (meaning, size) ← tagOctets? true 0 cursor.rest
      let cursor := cursor.skip size
      if meaning.isEmpty ∨ !atWordEnd cursor.rest then none
      else some (.tagHandle (String.ofList handle) (Tag.untilZero meaning), cursor)
    else none

/-- A directive after its percent sign, up to the end of its line. -/
def directive? (cursor : Cursor) : Option (Directive × Cursor) := do
  let name := cursor.word isNameChar
  let cursor := cursor.skip name.length
  if !atWordEnd cursor.rest then none
  else
    let (directive, cursor) ←
      if name = "YAML".toList then version? cursor
      else if name = "TAG".toList then tagHandle? cursor
      else none
    let cursor ← cursor.endLine?
    some (directive, cursor)

end ActionGateway.Yaml
