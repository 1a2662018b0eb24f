import ActionGateway.Yaml.Scalar
import ActionGateway.Yaml.Tag

/-! # YAML tokens

The words of a YAML text. Indentation shows as tokens too: a block collection starts where the text
is indented farther than before and ends where it no longer is. A key is known as such only when
its colon is found, so until then the place before it is remembered.
-/

namespace ActionGateway.Yaml

/-- **Token.** -/
inductive Token where
  | directive (directive : Directive)
  | documentStart
  | documentEnd
  | blockSequenceStart
  | blockMappingStart
  | blockEnd
  | flowSequenceStart
  | flowSequenceEnd
  | flowMappingStart
  | flowMappingEnd
  | blockEntry
  | flowEntry
  | key
  | value
  | alias (name : String)
  | anchor (name : String)
  | tag (name : TagName)
  | scalar (plain : Bool) (text : String)
  deriving DecidableEq, Repr

/-- **Tokens found so far**, the last one first, with their number. -/
structure TokensFound where
  newestFirst : List Token
  count : Nat
  count_eq : count = newestFirst.length

namespace TokensFound

/-- No tokens. -/
def empty : TokensFound := ⟨[], 0, rfl⟩

/-- The tokens in order. -/
def toList (found : TokensFound) : List Token := found.newestFirst.reverse

/-- Add a token. -/
def push (found : TokensFound) (token : Token) : TokensFound :=
  ⟨token :: found.newestFirst, found.count + 1, by simp [found.count_eq]⟩

/-- Add a token a number of times. -/
def pushTimes (found : TokensFound) (times : Nat) (token : Token) : TokensFound :=
  ⟨List.replicate times token ++ found.newestFirst, times + found.count,
    by simp [found.count_eq]⟩

/-- Insert a token after the given number of tokens. -/
def insertAt (found : TokensFound) (position : Nat) (token : Token) : TokensFound :=
  let newer := found.count - position
  ⟨found.newestFirst.take newer ++ token :: found.newestFirst.drop newer, found.count + 1, by
    simp only [List.length_append, List.length_take, List.length_cons, List.length_drop,
      found.count_eq]
    omega⟩

end TokensFound

/-- A place where a key may have started. -/
structure KeyCandidate where
  /-- How many tokens are before it. -/
  position : Nat
  /-- Nothing but a key may stand there. -/
  required : Bool
  place : Place

/-- **Lexer**: the tokens found so far and what is known about the place reached. -/
structure Lexer where
  cursor : Cursor
  /-- The columns of the open block collections, innermost first. -/
  columns : List Nat
  /-- A key may start here. -/
  keyAllowed : Bool
  candidate : Option KeyCandidate
  /-- The candidates outside each open bracket, innermost first. -/
  outer : List (Option KeyCandidate)
  tokens : TokensFound

namespace Lexer

/-- The start of a text. -/
def start (text : List Char) : Lexer :=
  ⟨⟨.start, text⟩, [], true, none, [], .empty⟩

/-- Inside brackets. -/
def inFlow (lexer : Lexer) : Bool :=
  !lexer.outer.isEmpty

/-- Content of the innermost block collection must not begin left of the margin. -/
def margin (lexer : Lexer) : Nat :=
  match lexer.columns with
  | column :: _ => column + 1
  | [] => 0

/-- Add a token and go to a cursor. -/
def emitAt (lexer : Lexer) (token : Token) (cursor : Cursor) : Lexer :=
  { lexer with tokens := lexer.tokens.push token, cursor := cursor }

/-- Add a token that takes some characters. -/
def emitWord (lexer : Lexer) (token : Token) (size : Nat) : Lexer :=
  lexer.emitAt token (lexer.cursor.skip size)

/-! ## Indentation -/

/-- Columns of block collections that are left of or at the given number of columns, and how many
are right of it. -/
def dropColumns (margin : Nat) : List Nat → List Nat × Nat
  | [] => ([], 0)
  | column :: columns =>
    if margin ≤ column then
      let (kept, ended) := dropColumns margin columns
      (kept, ended + 1)
    else (column :: columns, 0)

/-- End the block collections whose column is not left of the given number. Inside brackets
indentation has no meaning. -/
def endBlocks (margin : Nat) (lexer : Lexer) : Lexer :=
  if lexer.inFlow then lexer
  else
    let (columns, ended) := dropColumns margin lexer.columns
    { lexer with columns := columns, tokens := lexer.tokens.pushTimes ended .blockEnd }

/-- Start a block collection at a column that is farther right than the open ones; the token goes
before those that came after the given position. -/
def startBlock (token : Token) (column position : Nat) (lexer : Lexer) : Lexer :=
  if lexer.inFlow || decide (column < lexer.margin) then lexer
  else
    { lexer with
      columns := column :: lexer.columns
      tokens := lexer.tokens.insertAt position token }

/-- Start a block collection here. -/
def startBlockHere (token : Token) (lexer : Lexer) : Lexer :=
  lexer.startBlock token lexer.cursor.place.column lexer.tokens.count

/-! ## Keys -/

/-- Forget the candidate. A required one must not be forgotten. -/
def dropCandidate? (lexer : Lexer) : Option Lexer :=
  if lexer.candidate.any KeyCandidate.required then none
  else some { lexer with candidate := none }

/-- Remember this place as the start of a key, if one may start here. -/
def noteCandidate? (lexer : Lexer) : Option Lexer :=
  if lexer.keyAllowed then do
    let place := lexer.cursor.place
    let required := !lexer.inFlow && lexer.columns.head? == some place.column
    let lexer ← lexer.dropCandidate?
    some { lexer with candidate := some ⟨lexer.tokens.count, required, place⟩ }
  else some lexer

/-- A key ends on the line it starts on, within 1024 octets. -/
def isStale (place : Place) (candidate : KeyCandidate) : Bool :=
  decide (candidate.place.line < place.line) ||
    decide (candidate.place.octets + 1024 < place.octets)

/-- The candidate unless it is stale. A required one must not be. -/
def freshCandidate? (place : Place) : Option KeyCandidate → Option (Option KeyCandidate)
  | none => some none
  | some candidate =>
    if isStale place candidate then if candidate.required then none else some none
    else some (some candidate)

/-- Forget the candidate if it is stale. Those outside the open brackets are looked at when their
bracket is closed: one that became stale in the meantime still is. -/
def dropStale? (lexer : Lexer) : Option Lexer := do
  let candidate ← freshCandidate? lexer.cursor.place lexer.candidate
  some { lexer with candidate := candidate }

/-! ## Blanks -/

/-- Skip blanks, comments and line breaks. In a block a key may start on a new line, and a tab
does not count as a blank where a key may start. A byte order mark at the start of a line says
nothing, but it takes up a column. -/
def skipGap (inFlow keyAllowed comment : Bool) (place : Place) : List Char → Bool × Cursor
  | [] => (keyAllowed, ⟨place, []⟩)
  | c :: rest =>
    if isBreak c then skipGap inFlow (keyAllowed || !inFlow) false place.down rest
    else if comment then skipGap inFlow keyAllowed true (place.past c) rest
    else if c == ' ' || (c == '\t' && (inFlow || !keyAllowed)) ||
        (c == byteOrderMark && place.column == 0) then
      skipGap inFlow keyAllowed false (place.past c) rest
    else if c == '#' then skipGap inFlow keyAllowed true (place.past c) rest
    else (keyAllowed, ⟨place, c :: rest⟩)

/-- Go to the next token: past blanks, out of the block collections that end, with a stale
candidate forgotten. -/
def toNextToken? (lexer : Lexer) : Option Lexer := do
  let (keyAllowed, cursor) := skipGap lexer.inFlow lexer.keyAllowed false lexer.cursor.place
    lexer.cursor.rest
  let lexer ← { lexer with keyAllowed := keyAllowed, cursor := cursor }.dropStale?
  some (lexer.endBlocks (cursor.place.column + 1))

/-! ## Tokens one by one -/

/-- A line of its own outside all blocks: a directive or a mark between documents. -/
def outsideBlocks? (lexer : Lexer) : Option Lexer := do
  let lexer ← (lexer.endBlocks 0).dropCandidate?
  some { lexer with keyAllowed := false }

/-- A mark between documents. -/
def documentMark? (token : Token) (lexer : Lexer) : Option Lexer := do
  let lexer ← lexer.outsideBlocks?
  some (lexer.emitWord token 3)

/-- A directive. -/
def directiveToken? (lexer : Lexer) : Option Lexer := do
  let lexer ← lexer.outsideBlocks?
  let (directive, cursor) ← directive? (lexer.cursor.skip 1)
  some (lexer.emitAt (.directive directive) cursor)

/-- An opening bracket. -/
def openFlow? (token : Token) (lexer : Lexer) : Option Lexer := do
  let lexer ← lexer.noteCandidate?
  some ({ lexer with
    outer := lexer.candidate :: lexer.outer
    candidate := none
    keyAllowed := true }.emitWord token 1)

/-- A closing bracket. -/
def closeFlow? (token : Token) (lexer : Lexer) : Option Lexer := do
  let lexer ← lexer.dropCandidate?
  let lexer := match lexer.outer with
    | candidate :: outer => { lexer with candidate := candidate, outer := outer }
    | [] => lexer
  some ({ lexer with keyAllowed := false }.emitWord token 1)

/-- A comma inside brackets. -/
def flowEntry? (lexer : Lexer) : Option Lexer := do
  let lexer ← lexer.dropCandidate?
  some ({ lexer with keyAllowed := true }.emitWord .flowEntry 1)

/-- A hyphen in front of an item. -/
def blockEntry? (lexer : Lexer) : Option Lexer := do
  if !lexer.inFlow && !lexer.keyAllowed then none
  else
    let lexer ← (lexer.startBlockHere .blockSequenceStart).dropCandidate?
    some ({ lexer with keyAllowed := true }.emitWord .blockEntry 1)

/-- A question mark in front of a key. -/
def keyMark? (lexer : Lexer) : Option Lexer := do
  if !lexer.inFlow && !lexer.keyAllowed then none
  else
    let lexer ← (lexer.startBlockHere .blockMappingStart).dropCandidate?
    some ({ lexer with keyAllowed := !lexer.inFlow }.emitWord .key 1)

/-- A colon in front of a value. What came since the candidate is the key. -/
def valueMark? (lexer : Lexer) : Option Lexer :=
  match lexer.candidate with
  | some candidate =>
    let keyed := { lexer with
      tokens := lexer.tokens.insertAt candidate.position .key
      candidate := none
      keyAllowed := false }
    some ((keyed.startBlock .blockMappingStart candidate.place.column
      candidate.position).emitWord .value 1)
  | none =>
    if !lexer.inFlow && !lexer.keyAllowed then none
    else
      let lexer := lexer.startBlockHere .blockMappingStart
      some ({ lexer with keyAllowed := !lexer.inFlow }.emitWord .value 1)

/-- Note a candidate for the token here; no key starts right after it. -/
def beginNode? (lexer : Lexer) : Option Lexer :=
  lexer.noteCandidate?.map fun lexer => { lexer with keyAllowed := false }

/-- What may follow the name of an anchor or an alias. -/
def endsName (rest : List Char) : Bool :=
  atWordEnd rest ||
    rest.head?.any fun c => ['?', ':', ',', ']', '\x7d', '%', '@', '\x60'].contains c

/-- The name of an anchor or an alias after its mark. -/
def nameToken? (token : String → Token) (lexer : Lexer) : Option Lexer := do
  let lexer ← lexer.beginNode?
  let cursor := lexer.cursor.skip 1
  let name := cursor.word isNameChar
  let cursor := cursor.skip name.length
  if name.isEmpty || !endsName cursor.rest then none
  else some (lexer.emitAt (token (String.ofList name)) cursor)

/-- A tag. -/
def tagToken? (lexer : Lexer) : Option Lexer := do
  let lexer ← lexer.beginNode?
  let (name, cursor) ← tag? lexer.inFlow (lexer.cursor.skip 1)
  some (lexer.emitAt (.tag name) cursor)

/-- A block scalar. A key may start after it. -/
def blockScalarToken? (folded : Bool) (lexer : Lexer) : Option Lexer := do
  let lexer ← lexer.dropCandidate?
  let (text, cursor) ← blockScalar? folded lexer.margin (lexer.cursor.skip 1)
  some ({ lexer with keyAllowed := true }.emitAt (.scalar false text) cursor)

/-- A single-quoted scalar. -/
def singleQuotedToken? (lexer : Lexer) : Option Lexer := do
  let lexer ← lexer.beginNode?
  let cursor := lexer.cursor.skip 1
  let (text, cursor) ← singleQuoted .none [] cursor.place cursor.rest
  some (lexer.emitAt (.scalar false text) cursor)

/-- A double-quoted scalar. -/
def doubleQuotedToken? (lexer : Lexer) : Option Lexer := do
  let lexer ← lexer.beginNode?
  let cursor := lexer.cursor.skip 1
  let (text, cursor) ← doubleQuoted .none [] cursor.place 0 cursor.rest
  some (lexer.emitAt (.scalar false text) cursor)

/-- A plain scalar. When a line break follows it, a key may start after it. -/
def plainToken? (lexer : Lexer) : Option Lexer := do
  let lexer ← lexer.beginNode?
  let (text, gap, cursor) ← plainScalar ⟨lexer.inFlow, lexer.margin⟩ .none [] lexer.cursor.place
    lexer.cursor.rest
  some ({ lexer with keyAllowed := lexer.keyAllowed || gap.isLines }.emitAt (.scalar true text)
    cursor)

/-- Characters with a meaning of their own, which no plain scalar starts with. -/
def indicators : List Char := [
  '-', '?', ':', ',', '[', ']', '\x7b', '\x7d', '#', '&', '*', '!', '|', '>', '\x27', '"', '%',
  '@', '\x60']

/-- A plain scalar starts here, where no other token does. -/
def startsPlain (inFlow : Bool) : List Char → Bool
  | [] => false
  | c :: rest =>
    (!isBlank c && !isBreak c && !indicators.contains c) ||
    (c == '-' && !rest.head?.any isBlank) ||
    (!inFlow && (c == '?' || c == ':') && !atWordEnd rest)

/-- The token at the cursor, which stands at a character. -/
def token? (lexer : Lexer) (c : Char) (rest : List Char) : Option Lexer :=
  let lineStart := lexer.cursor.place.column == 0
  let separated := lexer.inFlow || atWordEnd rest
  if lineStart && c == '%' then lexer.directiveToken?
  else if lineStart && c == '-' && atDocumentMark (c :: rest) then
    lexer.documentMark? .documentStart
  else if lineStart && atDocumentMark (c :: rest) then lexer.documentMark? .documentEnd
  else if c == '[' then lexer.openFlow? .flowSequenceStart
  else if c == '\x7b' then lexer.openFlow? .flowMappingStart
  else if c == ']' then lexer.closeFlow? .flowSequenceEnd
  else if c == '\x7d' then lexer.closeFlow? .flowMappingEnd
  else if c == ',' then lexer.flowEntry?
  else if c == '-' && atWordEnd rest then lexer.blockEntry?
  else if c == '?' && separated then lexer.keyMark?
  else if c == ':' && separated then lexer.valueMark?
  else if c == '*' then lexer.nameToken? .alias
  else if c == '&' then lexer.nameToken? .anchor
  else if c == '!' then lexer.tagToken?
  else if c == '|' && !lexer.inFlow then lexer.blockScalarToken? false
  else if c == '>' && !lexer.inFlow then lexer.blockScalarToken? true
  else if c == '\x27' then lexer.singleQuotedToken?
  else if c == '"' then lexer.doubleQuotedToken?
  else if startsPlain lexer.inFlow (c :: rest) then lexer.plainToken?
  else none

/-- All tokens in order. Each step takes at least one character, so there are no more steps than
characters. -/
def run? : Nat → Lexer → Option (List Token)
  | 0, _ => none
  | fuel + 1, lexer => do
    let lexer ← lexer.toNextToken?
    match lexer.cursor.rest with
    | [] =>
      let lexer ← (lexer.endBlocks 0).dropCandidate?
      some lexer.tokens.toList
    | c :: rest =>
      let lexer ← lexer.token? c rest
      run? fuel lexer

end Lexer

/-- The tokens of a text. -/
def Token.ofText? (text : String) : Option (List Token) :=
  let characters := text.toList
  if characters.all isAllowed then
    let characters := unifyBreaks characters
    (Lexer.start characters).run? (characters.length + 1)
  else none

end ActionGateway.Yaml
