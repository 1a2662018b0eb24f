import ActionGateway.Yaml.Token

/-! # YAML nodes

The tree of a YAML document. Nodes may carry an anchor by which aliases refer to them. As read,
anchors are names; `Node.resolved?` replaces them by numbers, because a name may be used again and
an alias then means the use before it.
-/

namespace ActionGateway.Yaml

/-- What a node may carry in front of its content. -/
structure Properties (anchor : Type) where
  anchor : Option anchor
  tag : Option Tag
  deriving DecidableEq, Repr

/-- **Node**, with anchors of the given type. -/
inductive Node (anchor : Type) where
  | alias (target : anchor)
  | scalar (properties : Properties anchor) (plain : Bool) (text : String)
  | sequence (properties : Properties anchor) (items : List (Node anchor))
  | mapping (properties : Properties anchor) (entries : List (Node anchor × Node anchor))
  deriving Repr

namespace Node

/-- A scalar that is not there. -/
def absent {α : Type} (properties : Properties α) : Node α :=
  .scalar properties true ""

/-- Neither anchor nor tag. -/
def bare {α : Type} : Properties α := ⟨none, none⟩

/-! ## Reading -/

/-- What tag handles stand for. -/
abbrev Handles := List (String × Tag)

/-- The handles that need no declaration. -/
def standardHandles : Handles := [("!", Bytes.ofText "!"), ("!!", Tag.core "")]

/-- The tag that a name stands for. -/
def tagOf? (handles : Handles) (name : TagName) : Option Tag :=
  if name.handle.isEmpty then some name.suffix
  else (handles.lookup name.handle).map (· ++ name.suffix)

/-- The properties in front of a node: an anchor and a tag in either order. -/
def properties? (handles : Handles) : List Token → Option (Properties String × List Token)
  | .anchor anchor :: .tag name :: rest | .tag name :: .anchor anchor :: rest =>
    (tagOf? handles name).map fun tag => (⟨some anchor, some tag⟩, rest)
  | .anchor anchor :: rest => some (⟨some anchor, none⟩, rest)
  | .tag name :: rest => (tagOf? handles name).map fun tag => (⟨none, some tag⟩, rest)
  | tokens => some (bare, tokens)

/-- One of the tokens comes next, or none at all. -/
def endsAt (stops : List Token) : List Token → Bool
  | [] => false
  | token :: _ => stops.contains token

mutual

/-- A node, and the tokens after it. In a block it may be a block collection; as the value of a
key it may be a sequence whose hyphens are not indented. -/
def node? (handles : Handles) : Nat → Bool → Bool → List Token →
    Option (Node String × List Token)
  | 0, _, _, _ => none
  | _ + 1, _, _, .alias name :: rest => some (.alias name, rest)
  | fuel + 1, inBlock, hyphens, tokens => do
    let (properties, tokens) ← properties? handles tokens
    match tokens with
    | .scalar plain text :: rest => some (.scalar properties plain text, rest)
    | .flowSequenceStart :: rest => do
      let (items, rest) ← flowItems? handles fuel true rest
      some (.sequence properties items, rest)
    | .flowMappingStart :: rest => do
      let (entries, rest) ← flowEntries? handles fuel true rest
      some (.mapping properties entries, rest)
    | tokens =>
      match inBlock, hyphens, tokens with
      | _, true, .blockEntry :: _ => do
        let (items, rest) ← hyphenItems? handles fuel tokens
        some (.sequence properties items, rest)
      | true, _, .blockSequenceStart :: rest => do
        let (items, rest) ← blockItems? handles fuel rest
        some (.sequence properties items, rest)
      | true, _, .blockMappingStart :: rest => do
        let (entries, rest) ← blockEntries? handles fuel rest
        some (.mapping properties entries, rest)
      | _, _, tokens =>
        if properties.anchor.isSome || properties.tag.isSome then some (absent properties, tokens)
        else none

/-- A node, or an absent one before one of the given tokens. -/
def nodeUnless? (handles : Handles) : Nat → List Token → Bool → Bool → List Token →
    Option (Node String × List Token)
  | 0, _, _, _, _ => none
  | fuel + 1, stops, inBlock, hyphens, tokens =>
    if endsAt stops tokens then some (absent bare, tokens)
    else node? handles fuel inBlock hyphens tokens

/-- The items of a block sequence up to its end. -/
def blockItems? (handles : Handles) : Nat → List Token →
    Option (List (Node String) × List Token)
  | 0, _ => none
  | _ + 1, .blockEnd :: rest => some ([], rest)
  | fuel + 1, .blockEntry :: rest => do
    let (item, rest) ← nodeUnless? handles fuel [.blockEntry, .blockEnd] true false rest
    let (items, rest) ← blockItems? handles fuel rest
    some (item :: items, rest)
  | _ + 1, _ => none

/-- The items of a sequence whose hyphens are not indented. -/
def hyphenItems? (handles : Handles) : Nat → List Token →
    Option (List (Node String) × List Token)
  | 0, _ => none
  | fuel + 1, .blockEntry :: rest => do
    let (item, rest) ←
      nodeUnless? handles fuel [.blockEntry, .key, .value, .blockEnd] true false rest
    let (items, rest) ← hyphenItems? handles fuel rest
    some (item :: items, rest)
  | _ + 1, tokens => some ([], tokens)

/-- The value after a key, absent without a value mark. -/
def valueUnless? (handles : Handles) : Nat → List Token → Bool → List Token →
    Option (Node String × List Token)
  | 0, _, _, _ => none
  | fuel + 1, stops, inBlock, .value :: rest => nodeUnless? handles fuel stops inBlock inBlock rest
  | _ + 1, _, _, tokens => some (absent bare, tokens)

/-- The entries of a block mapping up to its end. -/
def blockEntries? (handles : Handles) : Nat → List Token →
    Option (List (Node String × Node String) × List Token)
  | 0, _ => none
  | _ + 1, .blockEnd :: rest => some ([], rest)
  | fuel + 1, .key :: rest => do
    let (key, rest) ← nodeUnless? handles fuel [.key, .value, .blockEnd] true true rest
    let (value, rest) ← valueUnless? handles fuel [.key, .value, .blockEnd] true rest
    let (entries, rest) ← blockEntries? handles fuel rest
    some ((key, value) :: entries, rest)
  | _ + 1, _ => none

/-- The items of a sequence in brackets up to its end; `first` says that none came before. -/
def flowItems? (handles : Handles) : Nat → Bool → List Token →
    Option (List (Node String) × List Token)
  | 0, _, _ => none
  | _ + 1, _, .flowSequenceEnd :: rest => some ([], rest)
  | fuel + 1, false, .flowEntry :: rest => flowItem? handles fuel rest
  | fuel + 1, true, tokens => flowItem? handles fuel tokens
  | _ + 1, false, _ => none

/-- An item of a sequence in brackets and the items after it. A key makes an item that is a mapping
with one entry. -/
def flowItem? (handles : Handles) : Nat → List Token →
    Option (List (Node String) × List Token)
  | 0, _ => none
  | _ + 1, .flowSequenceEnd :: rest => some ([], rest)
  | fuel + 1, .key :: rest => do
    -- When the key is absent, the token that shows this is taken as part of it.
    let stops := [.value, .flowEntry, .flowSequenceEnd]
    let (key, rest) ←
      if endsAt stops rest then some (absent bare, rest.drop 1)
      else node? handles fuel false false rest
    let (value, rest) ← valueUnless? handles fuel [.flowEntry, .flowSequenceEnd] false rest
    let (items, rest) ← flowItems? handles fuel false rest
    some (.mapping bare [(key, value)] :: items, rest)
  | fuel + 1, tokens => do
    let (item, rest) ← node? handles fuel false false tokens
    let (items, rest) ← flowItems? handles fuel false rest
    some (item :: items, rest)

/-- The entries of a mapping in braces up to its end; `first` says that none came before. -/
def flowEntries? (handles : Handles) : Nat → Bool → List Token →
    Option (List (Node String × Node String) × List Token)
  | 0, _, _ => none
  | _ + 1, _, .flowMappingEnd :: rest => some ([], rest)
  | fuel + 1, false, .flowEntry :: rest => flowPair? handles fuel rest
  | fuel + 1, true, tokens => flowPair? handles fuel tokens
  | _ + 1, false, _ => none

/-- An entry of a mapping in braces and the entries after it. A node that is not marked as a key
is one with an absent value. -/
def flowPair? (handles : Handles) : Nat → List Token →
    Option (List (Node String × Node String) × List Token)
  | 0, _ => none
  | _ + 1, .flowMappingEnd :: rest => some ([], rest)
  | fuel + 1, .key :: rest => do
    let (key, rest) ←
      nodeUnless? handles fuel [.value, .flowEntry, .flowMappingEnd] false false rest
    let (value, rest) ← valueUnless? handles fuel [.flowEntry, .flowMappingEnd] false rest
    let (entries, rest) ← flowEntries? handles fuel false rest
    some ((key, value) :: entries, rest)
  | fuel + 1, tokens => do
    let (key, rest) ← node? handles fuel false false tokens
    let (entries, rest) ← flowEntries? handles fuel false rest
    some ((key, absent bare) :: entries, rest)

end

/-- The node at the start of the tokens. No chain of calls is longer than a few for each token. -/
def ofBlock? (handles : Handles) (tokens : List Token) : Option (Node String × List Token) :=
  node? handles (4 * tokens.length + 8) true false tokens

/-! ## Documents -/

/-- The directives in front of a document. The version is one of two and is given at most once, and
so is what each handle stands for. -/
def directives? (versioned : Bool) (handles : Handles) :
    List Token → Option (Handles × List Token)
  | .directive (.version major minor) :: rest =>
    if versioned || major != 1 || (minor != 1 && minor != 2) then none
    else directives? true handles rest
  | .directive (.tagHandle handle meaning) :: rest =>
    if (handles.lookup handle).isSome then none
    else directives? versioned ((handle, meaning) :: handles) rest
  | tokens => some (handles ++ standardHandles, tokens)

/-- A document that starts with directives or with its own mark may be empty. -/
def explicitDocument? (tokens : List Token) : Option (Node String × List Token) := do
  let (handles, tokens) ← directives? false [] tokens
  match tokens with
  | .documentStart :: rest =>
    match rest with
    | [] | .directive _ :: _ | .documentStart :: _ | .documentEnd :: _ =>
      some (absent bare, rest)
    | content => ofBlock? handles content
  | _ => none

/-- The one document of a stream; nothing when there is none. -/
def ofTokens? (tokens : List Token) : Option (Option (Node String)) :=
  match tokens with
  | [] => some none
  | first :: _ => do
    let explicit := match first with
      | .directive _ | .documentStart => true
      | _ => false
    let (node, rest) ←
      if explicit then explicitDocument? tokens else ofBlock? standardHandles tokens
    if rest.all (· == .documentEnd) then some (some node) else none

/-! ## Anchors -/

/-- The number that each anchor name has at some place in a document. -/
structure Numbering where
  numbers : List (String × Nat)

namespace Numbering

/-- Give a number to a name. It is the count of the names known, so a name that is used again
shares the number that the next new name gets. -/
def assign (numbering : Numbering) (name : String) : Nat × Numbering :=
  let number := numbering.numbers.length
  (number, ⟨(name, number) :: numbering.numbers.filter fun entry => entry.1 != name⟩)

/-- Number the anchor of a node. -/
def anchor (numbering : Numbering) (properties : Properties String) :
    Properties Nat × Numbering :=
  match properties.anchor with
  | none => (⟨none, properties.tag⟩, numbering)
  | some name =>
    let (number, numbering) := numbering.assign name
    (⟨some number, properties.tag⟩, numbering)

end Numbering

mutual

/-- The node with its anchors numbered. An alias has to come after its anchor. -/
def numbered? : Node String → Numbering → Option (Node Nat × Numbering)
  | .alias name, numbering =>
    (numbering.numbers.lookup name).map fun number => (.alias number, numbering)
  | .scalar properties plain text, numbering =>
    let (properties, numbering) := numbering.anchor properties
    some (.scalar properties plain text, numbering)
  | .sequence properties items, numbering => do
    let (properties, numbering) := numbering.anchor properties
    let (items, numbering) ← numberedItems? items numbering
    some (.sequence properties items, numbering)
  | .mapping properties entries, numbering => do
    let (properties, numbering) := numbering.anchor properties
    let (entries, numbering) ← numberedEntries? entries numbering
    some (.mapping properties entries, numbering)

/-- `numbered?` for each item in order. -/
def numberedItems? : List (Node String) → Numbering → Option (List (Node Nat) × Numbering)
  | [], numbering => some ([], numbering)
  | item :: rest, numbering => do
    let (item, numbering) ← numbered? item numbering
    let (rest, numbering) ← numberedItems? rest numbering
    some (item :: rest, numbering)

/-- `numbered?` for each key and value in order. -/
def numberedEntries? : List (Node String × Node String) → Numbering →
    Option (List (Node Nat × Node Nat) × Numbering)
  | [], numbering => some ([], numbering)
  | (key, value) :: rest, numbering => do
    let (key, numbering) ← numbered? key numbering
    let (value, numbering) ← numbered? value numbering
    let (rest, numbering) ← numberedEntries? rest numbering
    some ((key, value) :: rest, numbering)

end

/-- The node with its anchors numbered. -/
def resolved? (node : Node String) : Option (Node Nat) :=
  (numbered? node ⟨[]⟩).map Prod.fst

mutual

/-- The nodes with an anchor, in the order in which they start. -/
def anchored : Node Nat → List (Nat × Node Nat)
  | .alias _ => []
  | .scalar properties plain text =>
    (properties.anchor.map fun number => (number, Node.scalar properties plain text)).toList
  | .sequence properties items =>
    (properties.anchor.map fun number => (number, Node.sequence properties items)).toList ++
      anchoredItems items
  | .mapping properties entries =>
    (properties.anchor.map fun number => (number, Node.mapping properties entries)).toList ++
      anchoredEntries entries

/-- `anchored` for each item. -/
def anchoredItems : List (Node Nat) → List (Nat × Node Nat)
  | [] => []
  | item :: rest => anchored item ++ anchoredItems rest

/-- `anchored` for each key and value. -/
def anchoredEntries : List (Node Nat × Node Nat) → List (Nat × Node Nat)
  | [] => []
  | (key, value) :: rest => anchored key ++ anchored value ++ anchoredEntries rest

end

mutual

/-- The number of starts, ends and scalars in a node. -/
def weight : Node Nat → Nat
  | .alias _ | .scalar .. => 1
  | .sequence _ items => weightItems items + 2
  | .mapping _ entries => weightEntries entries + 2

/-- `weight` of all items. -/
def weightItems : List (Node Nat) → Nat
  | [] => 0
  | item :: rest => weight item + weightItems rest

/-- `weight` of all keys and values. -/
def weightEntries : List (Node Nat × Node Nat) → Nat
  | [] => 0
  | (key, value) :: rest => weight key + weight value + weightEntries rest

end

end Node

end ActionGateway.Yaml
