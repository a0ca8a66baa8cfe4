import MeterUplink.Yaml.Lexer

namespace MeterUplink.Yaml

/-! From tokens to the tree of a document.

A node that is named by an anchor gets a number: how many different names were in use before.
A name that is used again gets the present count, and the next new name the same number once
more. An alias stands for the number that its name has at that place; which node this is turns
out at the end of the document, as the last one to begin of those with the number. -/

inductive Node where
  | scalar (style : ScalarStyle) (tag : Option String) (text : String)
  | sequence (items : List Node)
  | mapping (entries : List (Node × Node))
  /-- A node with its number. -/
  | anchored (number : Nat) (node : Node)
  /-- The use of a number. -/
  | reference (number : Nat)

/-- The text of a scalar. -/
def Node.text? : Node → Option String
  | scalar _ _ text => some text
  | _ => none

/-- The node that stands where nothing is written. -/
def Node.empty : Node := .scalar .plain none ""

/-- The names in use, each with its number. -/
abbrev Names := List (String × Nat)

namespace Names

/-- The number for an anchor that follows. -/
def next (names : Names) : Nat := names.length

def bind (names : Names) (name : String) : Names :=
  (name, names.next) :: names.filter (·.1 ≠ name)

end Names

/-- The expansions of the handles of tags. -/
abbrev Handles := List (String × List UInt8)

def standardHandles : Handles :=
  [("!", Text.utf8Bytes "!"), ("!!", Text.utf8Bytes "tag:yaml.org,2002:")]

/-- What was read from the front of some tokens. -/
structure Parsed (α : Type) where
  value : α
  names : Names
  rest : List Token

def Parsed.map {α β : Type} (f : α → β) (parsed : Parsed α) : Parsed β :=
  ⟨f parsed.value, parsed.names, parsed.rest⟩

/-- Name and tag in front of a node. -/
structure Properties where
  anchor : Option String := none
  tag : Option (List UInt8) := none

namespace Properties

def isEmpty (properties : Properties) : Bool :=
  properties.anchor.isNone && properties.tag.isNone

/-- The names in use from the beginning of the node on. -/
def bind (properties : Properties) (names : Names) : Names :=
  match properties.anchor with
  | some name => names.bind name
  | none => names

/-- The node with its number, if it has a name; `names` are those in use before it. -/
def mark (properties : Properties) (names : Names) (node : Node) : Node :=
  match properties.anchor with
  | some _ => .anchored names.next node
  | none => node

/-- A scalar. A tag whose octets are no text is none. -/
def scalar (properties : Properties) (style : ScalarStyle) (text : String) : Node :=
  let tag := (properties.tag.bind Text.decodeUtf8?).map String.ofList
  .scalar style tag text

end Properties

def expandTag? (handles : Handles) (handle : String) (suffix : List UInt8) :
    Option (List UInt8) :=
  if handle = "" then some suffix else (handles.lookup handle).map (· ++ suffix)

/-- Name and tag in either order, each at most once. -/
def properties? (handles : Handles) : List Token → Option (Properties × List Token)
  | .anchor name :: .tag handle suffix :: rest =>
    (expandTag? handles handle suffix).map fun tag => (⟨some name, some tag⟩, rest)
  | .tag handle suffix :: .anchor name :: rest =>
    (expandTag? handles handle suffix).map fun tag => (⟨some name, some tag⟩, rest)
  | .anchor name :: rest => some (⟨some name, none⟩, rest)
  | .tag handle suffix :: rest =>
    (expandTag? handles handle suffix).map fun tag => (⟨none, some tag⟩, rest)
  | rest => some ({}, rest)

/-- Whether nothing is written in the entry of a block sequence. -/
def endsBlockItem : List Token → Bool
  | .blockEntry :: _ | .blockEnd :: _ => true
  | _ => false

/-- Whether nothing is written behind a dash that has no indentation of its own. -/
def endsDash : List Token → Bool
  | .blockEntry :: _ | .key :: _ | .value :: _ | .blockEnd :: _ => true
  | _ => false

/-- Whether nothing is written for a key or value of a block mapping. -/
def endsBlockPart : List Token → Bool
  | .key :: _ | .value :: _ | .blockEnd :: _ => true
  | _ => false

/-- Whether nothing is written for a key or value between brackets, of which `closing` is the
second one. -/
def endsFlowPart (closing : Token) : List Token → Bool
  | .value :: _ | .flowEntry :: _ => true
  | token :: _ => token == closing
  | [] => false

/-- The tokens of an item between brackets; all but the first one follow a comma. -/
def afterComma? (first : Bool) : List Token → Option (List Token)
  | .flowEntry :: rest => if first then some (.flowEntry :: rest) else some rest
  | rest => if first then some rest else none

mutual

/-- One node. In a `block` it may be a block collection, and with `dashes` the items of a sequence
may follow without indentation of their own. The number bounds the depth of the reading. -/
def node? (handles : Handles) : Nat → (block dashes : Bool) → Names → List Token →
    Option (Parsed Node)
  | 0, _, _, _, _ => none
  | _ + 1, _, _, names, .reference name :: rest =>
    (names.lookup name).map fun number => ⟨.reference number, names, rest⟩
  | depth + 1, block, dashes, names, tokens => do
    let (properties, content) ← properties? handles tokens
    let inside := properties.bind names
    let sequence (items : List Node) : Node := properties.mark names (.sequence items)
    let mapping (entries : List (Node × Node)) : Node := properties.mark names (.mapping entries)
    match content, block, dashes with
    | .blockEntry :: _, _, true =>
      (dashes? handles depth inside content).map fun items => items.map sequence
    | .scalar style text :: rest, _, _ =>
      some ⟨properties.mark names (properties.scalar style text), inside, rest⟩
    | .flowSequenceStart :: rest, _, _ =>
      (flowItems? handles depth true inside rest).map fun items => items.map sequence
    | .flowMappingStart :: rest, _, _ =>
      (flowEntries? handles depth true inside rest).map fun entries => entries.map mapping
    | .blockSequenceStart :: rest, true, _ =>
      (blockItems? handles depth inside rest).map fun items => items.map sequence
    | .blockMappingStart :: rest, true, _ =>
      (blockEntries? handles depth inside rest).map fun entries => entries.map mapping
    | rest, _, _ =>
      if properties.isEmpty then none
      else some ⟨properties.mark names (properties.scalar .plain ""), inside, rest⟩

/-- A node, or the empty one if nothing is written for it. -/
def part? (handles : Handles) : Nat → (ends block dashes : Bool) → Names → List Token →
    Option (Parsed Node)
  | 0, _, _, _, _, _ => none
  | depth + 1, ends, block, dashes, names, tokens =>
    if ends then some ⟨.empty, names, tokens⟩ else node? handles depth block dashes names tokens

/-- The items of a block sequence, up to its end. -/
def blockItems? (handles : Handles) : Nat → Names → List Token → Option (Parsed (List Node))
  | 0, _, _ => none
  | _ + 1, names, .blockEnd :: rest => some ⟨[], names, rest⟩
  | depth + 1, names, .blockEntry :: rest => do
    let item ← part? handles depth (endsBlockItem rest) true false names rest
    let items ← blockItems? handles depth item.names item.rest
    some { items with value := item.value :: items.value }
  | _ + 1, _, _ => none

/-- The items of a sequence inside a block mapping, as long as dashes follow. -/
def dashes? (handles : Handles) : Nat → Names → List Token → Option (Parsed (List Node))
  | 0, _, _ => none
  | depth + 1, names, .blockEntry :: rest => do
    let item ← part? handles depth (endsDash rest) true false names rest
    let items ← dashes? handles depth item.names item.rest
    some { items with value := item.value :: items.value }
  | _ + 1, names, rest => some ⟨[], names, rest⟩

/-- The entries of a block mapping, up to its end. -/
def blockEntries? (handles : Handles) : Nat → Names → List Token →
    Option (Parsed (List (Node × Node)))
  | 0, _, _ => none
  | _ + 1, names, .blockEnd :: rest => some ⟨[], names, rest⟩
  | depth + 1, names, .key :: rest => do
    let key ← part? handles depth (endsBlockPart rest) true true names rest
    let value ←
      match key.rest with
      | .value :: rest => part? handles depth (endsBlockPart rest) true true key.names rest
      | rest => some ⟨.empty, key.names, rest⟩
    let entries ← blockEntries? handles depth value.names value.rest
    some { entries with value := (key.value, value.value) :: entries.value }
  | _ + 1, _, _ => none

/-- The items between square brackets, up to the closing one. A key among them makes a mapping of
one entry; without a text for the key, the token in its place is passed over. -/
def flowItems? (handles : Handles) : Nat → (first : Bool) → Names → List Token →
    Option (Parsed (List Node))
  | 0, _, _, _ => none
  | _ + 1, _, names, .flowSequenceEnd :: rest => some ⟨[], names, rest⟩
  | depth + 1, first, names, tokens => do
    match ← afterComma? first tokens with
    | .flowSequenceEnd :: rest => some ⟨[], names, rest⟩
    | .key :: rest =>
      let ends := endsFlowPart .flowSequenceEnd
      let key ← part? handles depth (ends rest) false false names rest
      let behind := if ends rest then key.rest.drop 1 else key.rest
      let value ←
        match behind with
        | .value :: rest => part? handles depth (ends rest) false false key.names rest
        | rest => some ⟨.empty, key.names, rest⟩
      let items ← flowItems? handles depth false value.names value.rest
      some { items with value := .mapping [(key.value, value.value)] :: items.value }
    | rest =>
      let item ← node? handles depth false false names rest
      let items ← flowItems? handles depth false item.names item.rest
      some { items with value := item.value :: items.value }

/-- The entries between curly brackets, up to the closing one. -/
def flowEntries? (handles : Handles) : Nat → (first : Bool) → Names → List Token →
    Option (Parsed (List (Node × Node)))
  | 0, _, _, _ => none
  | _ + 1, _, names, .flowMappingEnd :: rest => some ⟨[], names, rest⟩
  | depth + 1, first, names, tokens => do
    match ← afterComma? first tokens with
    | .flowMappingEnd :: rest => some ⟨[], names, rest⟩
    | .key :: rest =>
      let ends := endsFlowPart .flowMappingEnd
      let key ← part? handles depth (ends rest) false false names rest
      let value ←
        match key.rest with
        | .value :: rest => part? handles depth (ends rest) false false key.names rest
        | rest => some ⟨.empty, key.names, rest⟩
      let entries ← flowEntries? handles depth false value.names value.rest
      some { entries with value := (key.value, value.value) :: entries.value }
    | rest =>
      let key ← node? handles depth false false names rest
      let entries ← flowEntries? handles depth false key.names key.rest
      some { entries with value := (key.value, .empty) :: entries.value }

end

/-- Directives, each handle and the version at most once, give the handles of the document. -/
def directives? (handles : Handles) (versionSeen : Bool) :
    List Token → Option (Handles × List Token)
  | .version major minor :: rest =>
    if versionSeen || major != 1 || (minor != 1 && minor != 2) then none
    else directives? handles true rest
  | .tagShorthand handle expansion :: rest =>
    if (handles.lookup handle).isSome then none
    else directives? ((handle, expansion) :: handles) versionSeen rest
  | rest => some (handles, rest)

/-- Whether an explicit document has no content. -/
def endsDocument : List Token → Bool
  | [] => true
  | .version _ _ :: _ | .tagShorthand _ _ :: _ | .documentStart :: _ | .documentEnd :: _ => true
  | _ => false

def isDocumentEnd : Token → Bool
  | .documentEnd => true
  | _ => false

/-! ## Documents -/

mutual

/-- The numbered nodes inside a node, in the order in which they begin. -/
def Node.numbered : Node → List (Nat × Node)
  | .anchored number node => (number, node) :: node.numbered
  | .sequence items => numberedItems items
  | .mapping entries => numberedEntries entries
  | .scalar .. | .reference _ => []

def numberedItems : List Node → List (Nat × Node)
  | [] => []
  | item :: items => item.numbered ++ numberedItems items

def numberedEntries : List (Node × Node) → List (Nat × Node)
  | [] => []
  | (key, value) :: entries => key.numbered ++ value.numbered ++ numberedEntries entries

end

/-- A tree with the nodes that its aliases stand for, the one that counts in front. -/
structure Document where
  root : Node
  numbered : List (Nat × Node)

def Document.ofRoot (root : Node) : Document := ⟨root, root.numbered.reverse⟩

/-- The node that is meant by a node of the document. -/
def Document.meaning (document : Document) : Node → Node
  | .anchored _ node => node
  | .reference number => (document.numbered.lookup number).getD (.reference number)
  | other => other

/-- The only document, or `none` inside if there is no document at all. -/
def document? (tokens : List Token) : Option (Option Document) := do
  if tokens.isEmpty then some none
  else
    let (handles, content) ← directives? [] false tokens
    let handles := handles ++ standardHandles
    let depth := 3 * tokens.length + 3
    let root ←
      match content with
      | .documentStart :: rest => part? handles depth (endsDocument rest) true false [] rest
      | rest =>
        if rest.length = tokens.length then node? handles depth true false [] rest else none
    if (root.rest.dropWhile isDocumentEnd).isEmpty then some (some (.ofRoot root.value)) else none

/-- The document of a text. -/
def parse? (text : String) : Option (Option Document) := do
  let source ← source? text
  let tokens ← tokens? source
  document? tokens

end MeterUplink.Yaml
