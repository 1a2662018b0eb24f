/-! # Media types

A media type names a type and a subtype and may have parameters. The reading is strict:
outside quoted values only token characters, and blank space only before a parameter or after a
quoted value. The text of a media type keeps the case of the values of parameters, except of the
charset.
-/

namespace ActionGateway

/-- A character of a token. -/
def isTokenChar (c : Char) : Bool :=
  c.isAlphanum || ['!', '#', '$', '%', '&', '\x27', '*', '+', '-', '.', '^', '_', '\x60', '|',
    '~'].contains c

/-- A parameter of a media type as it is written. -/
structure MediaParameter where
  /-- The number of spaces before it. -/
  indent : Nat
  name : List Char
  quoted : Bool
  value : List Char
  /-- The number of spaces after a quoted value. -/
  padding : Nat
  deriving DecidableEq, Repr

/-- What follows the first semicolon of a media type: parameters, and after a last semicolon some
number of spaces and nothing else. -/
structure MediaParameters where
  parameters : List MediaParameter
  trailing : Option Nat
  deriving DecidableEq, Repr

namespace MediaParameters

/-- Put a parameter in front. -/
def cons (parameter : MediaParameter) (parameters : MediaParameters) : MediaParameters :=
  { parameters with parameters := parameter :: parameters.parameters }

mutual

/-- Parameters from the name of one on. `indent` spaces and the characters `name`, last one first,
have been read. -/
def ofName? (indent : Nat) (name : List Char) : List Char → Option MediaParameters
  | [] => if name.isEmpty then some ⟨[], some indent⟩ else none
  | c :: rest =>
    if c == ' ' && name.isEmpty then ofName? (indent + 1) [] rest
    else if isTokenChar c then ofName? indent (c :: name) rest
    else if c == '=' && !name.isEmpty then ofValue? ⟨indent, name.reverse, false, [], 0⟩ rest
    else none

/-- Parameters from the value of one on; a value that starts with a quote is quoted. -/
def ofValue? (parameter : MediaParameter) : List Char → Option MediaParameters
  | [] => some ⟨[parameter], none⟩
  | c :: rest =>
    if c == '"' then ofQuoted? { parameter with quoted := true } rest
    else if isTokenChar c then ofUnquoted? { parameter with value := [c] } rest
    else none

/-- Parameters from within an unquoted value on; it is held last character first. -/
def ofUnquoted? (parameter : MediaParameter) : List Char → Option MediaParameters
  | [] => some ⟨[{ parameter with value := parameter.value.reverse }], none⟩
  | c :: rest =>
    if isTokenChar c then ofUnquoted? { parameter with value := c :: parameter.value } rest
    else if c == ';' then
      (ofName? 0 [] rest).map (cons { parameter with value := parameter.value.reverse })
    else none

/-- Parameters from within a quoted value on; it is held last character first. A quote ends it
unless it is its first character. -/
def ofQuoted? (parameter : MediaParameter) : List Char → Option MediaParameters
  | [] => none
  | c :: rest =>
    if c == '"' && !parameter.value.isEmpty then
      ofPadding? { parameter with value := parameter.value.reverse } rest
    else if 0x20 ≤ c.toNat && c.toNat != 0x7F then
      ofQuoted? { parameter with value := c :: parameter.value } rest
    else none

/-- Parameters from after a quoted value on. -/
def ofPadding? (parameter : MediaParameter) : List Char → Option MediaParameters
  | [] => some ⟨[parameter], none⟩
  | c :: rest =>
    if c == ' ' then ofPadding? { parameter with padding := parameter.padding + 1 } rest
    else if c == ';' then (ofName? 0 [] rest).map (cons parameter)
    else none

end

end MediaParameters

/-- **Media type.** -/
structure MediaType where
  /-- The type, in lower case. -/
  main : List Char
  /-- The subtype, in lower case. -/
  sub : List Char
  parameters : MediaParameters
  deriving DecidableEq, Repr

namespace MediaParameter

/-- The name in lower case. -/
def key (parameter : MediaParameter) : List Char := parameter.name.map Char.toLower

/-- The value, in lower case when it is a charset. -/
def shownValue (parameter : MediaParameter) : List Char :=
  if parameter.key = "charset".toList then parameter.value.map Char.toLower
  else parameter.value

/-- A parameter after its semicolon. -/
def text (parameter : MediaParameter) : List Char :=
  let quote := if parameter.quoted then ['"'] else []
  List.replicate parameter.indent ' ' ++ parameter.key ++ '=' :: quote ++ parameter.shownValue ++
    quote ++ List.replicate parameter.padding ' '

end MediaParameter

namespace MediaType

/-- The media type that a text gives. -/
def ofText? (content : String) : Option MediaType :=
  let text := content.toList
  let main := text.takeWhile isTokenChar
  match text.drop main.length with
  | '/' :: rest =>
    if main.isEmpty then none
    else
      let sub := rest.takeWhile isTokenChar
      let mediaType := MediaType.mk (main.map Char.toLower) (sub.map Char.toLower)
      match rest.drop sub.length with
      | [] => some (mediaType ⟨[], none⟩)
      | ';' :: rest =>
        if sub.isEmpty then none
        else (MediaParameters.ofName? 0 [] rest).map mediaType
      | _ => none
  | _ => none

/-- The text of a media type. Without parameters no semicolon is left. -/
def text (mediaType : MediaType) : String :=
  let essence := mediaType.main ++ '/' :: mediaType.sub
  let parameters := mediaType.parameters.parameters
  if parameters.isEmpty then String.ofList essence
  else
    let trailing := match mediaType.parameters.trailing with
      | some spaces => ';' :: List.replicate spaces ' '
      | none => []
    String.ofList (essence ++ parameters.flatMap (fun parameter => ';' :: parameter.text) ++
      trailing)

/-- The subtype without the suffix that its last plus sign starts. A plus sign in front starts no
suffix. -/
def baseSubtype (mediaType : MediaType) : List Char :=
  match mediaType.sub.reverse.span (· != '+') with
  | (_, _ :: before) => if before.isEmpty then mediaType.sub else before.reverse
  | _ => mediaType.sub

/-- The value of a parameter. -/
def parameter? (mediaType : MediaType) (name : String) : Option String :=
  (mediaType.parameters.parameters.find? fun parameter => parameter.key == name.toList).map
    fun parameter => String.ofList parameter.shownValue

end MediaType

end ActionGateway
