import MeterUplink.Yaml.Scalar.Block
import MeterUplink.Yaml.Scalar.Plain
import MeterUplink.Yaml.Scalar.Quoted
import MeterUplink.Yaml.Tag
import MeterUplink.Yaml.Token

namespace MeterUplink.Yaml

/-! From text to tokens. A scalar or collection turns out to be a key only when the colon behind
it is met, so the lexer remembers, for each level of brackets, where a key could begin, and puts
the token of the key there afterwards. A key has to stand on one line. -/

/-- A place where a key may turn out to begin. -/
structure PossibleKey where
  /-- The number of tokens before it. -/
  before : Nat
  /-- Whether only a key can stand here. -/
  required : Bool
  position : Position
deriving Repr, DecidableEq

structure Lexer where
  position : Position := {}
  rest : List Char
  /-- The tokens so far, the last one first. -/
  tokens : List Token := []
  /-- The column behind the indentation of the innermost block, zero outside of all. -/
  floor : Nat := 0
  /-- The same for the blocks around it. -/
  outerFloors : List Nat := []
  /-- The possible keys of the levels of brackets around this one. -/
  outerKeys : List (Option PossibleKey) := []
  possibleKey : Option PossibleKey := none
  keyAllowed : Bool := true

namespace Lexer

def inFlow (lexer : Lexer) : Bool := !lexer.outerKeys.isEmpty

def surroundings (lexer : Lexer) : Surroundings := ⟨lexer.inFlow, lexer.floor⟩

/-- Consumes characters. -/
def skip (lexer : Lexer) (text : List Char) : Lexer :=
  { lexer with
    position := lexer.position.pastAll text
    rest := lexer.rest.drop text.length }

def emit (lexer : Lexer) (token : Token) : Lexer :=
  { lexer with tokens := token :: lexer.tokens }

/-- Puts a token behind the first `count` ones. -/
def insertAfter (lexer : Lexer) (count : Nat) (token : Token) : Lexer :=
  let later := lexer.tokens.length - count
  { lexer with tokens := lexer.tokens.take later ++ token :: lexer.tokens.drop later }

/-- Blanks, comments and line breaks before a token, as far as they reach. A tab may not stand
where a key could begin. -/
def skipBlanks (inFlow : Bool) (keyAllowed inComment : Bool) (position : Position) :
    List Char → Position × List Char × Bool
  | [] => (position, [], keyAllowed)
  | c :: rest =>
    if isBreak c then skipBlanks inFlow (keyAllowed || !inFlow) false (position.past c) rest
    else if inComment then skipBlanks inFlow keyAllowed true (position.past c) rest
    else if c == ' ' || (c == '\t' && (inFlow || !keyAllowed)) ||
        (c == '\uFEFF' && position.column == 0) then
      skipBlanks inFlow keyAllowed false (position.past c) rest
    else if c == '#' then skipBlanks inFlow keyAllowed true (position.past c) rest
    else (position, c :: rest, keyAllowed)

def toNextToken (lexer : Lexer) : Lexer :=
  let (position, rest, keyAllowed) :=
    skipBlanks lexer.inFlow lexer.keyAllowed false lexer.position lexer.rest
  { lexer with position, rest, keyAllowed }

/-- The most bytes that a key may have before its colon. -/
def longestKey : Nat := 1024

/-- A possible key that is on an earlier line, or too far back, is none. -/
def isStale (position : Position) (possible : PossibleKey) : Bool :=
  possible.position.line < position.line ||
    possible.position.index + longestKey < position.index

/-- Forgets the possible keys that have become stale; a required one is missed. -/
def dropStale (lexer : Lexer) : Option Lexer :=
  let missed (possible : Option PossibleKey) : Bool :=
    possible.any fun key => isStale lexer.position key && key.required
  let keep (possible : Option PossibleKey) : Option PossibleKey :=
    possible.filter fun key => !isStale lexer.position key
  if missed lexer.possibleKey || lexer.outerKeys.any missed then none
  else some { lexer with
    possibleKey := keep lexer.possibleKey
    outerKeys := lexer.outerKeys.map keep }

/-- The next token begins no key any more; a required one is missed. -/
def dropKey (lexer : Lexer) : Option Lexer :=
  if lexer.possibleKey.any (·.required) then none else some { lexer with possibleKey := none }

/-- Remembers that a key may begin here. -/
def saveKey (lexer : Lexer) : Option Lexer :=
  if lexer.keyAllowed then do
    let dropped ← lexer.dropKey
    let required := !lexer.inFlow && lexer.floor == lexer.position.column + 1
    some { dropped with
      possibleKey := some ⟨lexer.tokens.length, required, lexer.position⟩ }
  else some lexer

/-- Opens a block at a column, unless one is open there already. -/
def openBlock (lexer : Lexer) (column count : Nat) (token : Token) : Lexer :=
  if !lexer.inFlow && lexer.floor ≤ column then
    { lexer.insertAfter count token with
      floor := column + 1
      outerFloors := lexer.floor :: lexer.outerFloors }
  else lexer

/-- Closes the blocks whose content begins behind a column. -/
def closeFloors (column : Nat) : Nat → List Nat → Nat × List Nat × Nat
  | floor, [] => (floor, [], 0)
  | floor, outer :: rest =>
    if column < floor then
      let (floor, floors, closed) := closeFloors column outer rest
      (floor, floors, closed + 1)
    else (floor, outer :: rest, 0)

/-- Closes blocks until the innermost one does not begin behind `column`; the column is counted
from one, so zero closes all. -/
def closeBlocks (lexer : Lexer) (column : Nat) : Lexer :=
  if lexer.inFlow then lexer
  else
    let (floor, outerFloors, closed) := closeFloors column lexer.floor lexer.outerFloors
    { lexer with
      floor, outerFloors
      tokens := List.replicate closed .blockEnd ++ lexer.tokens }

def allowKey (lexer : Lexer) (allowed : Bool) : Lexer := { lexer with keyAllowed := allowed }

/-- Three dashes or dots. -/
def documentMark (lexer : Lexer) (token : Token) : Option Lexer := do
  let lexer ← (lexer.closeBlocks 0).dropKey
  some (((lexer.allowKey false).skip (lexer.rest.take 3)).emit token)

/-- The end of a directive's line. -/
def endOfLine (lexer : Lexer) : Option Lexer :=
  let blanks := lexer.rest.takeWhile isSpace
  let lexer := lexer.skip blanks
  let comment := if lexer.rest.head? = some '#' then lexer.rest.takeWhile (!isBreak ·) else []
  let lexer := lexer.skip comment
  match lexer.rest with
  | [] => some lexer
  | c :: _ => if isBreak c then some (lexer.skip [c]) else none

/-- The number in front of a text. -/
def digitsValue (digits : List Char) : Nat :=
  digits.foldl (fun n c => 10 * n + (c.toNat - 48)) 0

/-- The numbers of a version directive. -/
def versionDirective (lexer : Lexer) : Option Lexer := do
  let lexer := lexer.skip (lexer.rest.takeWhile isSpace)
  let major := lexer.rest.takeWhile Char.isDigit
  let lexer := lexer.skip major
  match lexer.rest with
  | '.' :: _ =>
    let lexer := lexer.skip ['.']
    let minor := lexer.rest.takeWhile Char.isDigit
    if major.isEmpty || minor.isEmpty || 9 < major.length || 9 < minor.length then none
    else
      let lexer := lexer.skip minor
      (lexer.emit (.version (digitsValue major) (digitsValue minor))).endOfLine
  | _ => none

/-- Handle and expansion of a tag directive. -/
def tagDirective (lexer : Lexer) : Option Lexer := do
  let lexer := lexer.skip (lexer.rest.takeWhile isSpace)
  let handle := lexer.rest.takeWhile fun c => !isSpace c && !isBreak c
  let lexer := lexer.skip handle
  let blanks := lexer.rest.takeWhile isSpace
  let lexer := lexer.skip blanks
  let expansion := lexer.rest.takeWhile (isTagChar true)
  let octets ← tagText? expansion
  let lexer := lexer.skip expansion
  if isHandle handle && !blanks.isEmpty && !expansion.isEmpty && startsBlank lexer.rest then
    (lexer.emit (.tagShorthand (String.ofList handle) octets)).endOfLine
  else none

/-- A line that begins with a percent sign. -/
def directive (lexer : Lexer) : Option Lexer := do
  let lexer ← (lexer.closeBlocks 0).dropKey
  let lexer := (lexer.allowKey false).skip ['%']
  let name := lexer.rest.takeWhile isNameChar
  let lexer := lexer.skip name
  if !startsBlank lexer.rest then none
  else if name = "YAML".toList then lexer.versionDirective
  else if name = "TAG".toList then lexer.tagDirective
  else none

/-- An opening bracket, which may begin a key. -/
def openFlow (lexer : Lexer) (token : Token) : Option Lexer := do
  let saved ← lexer.saveKey
  let inner := { saved with
    outerKeys := saved.possibleKey :: saved.outerKeys
    possibleKey := none
    keyAllowed := true }
  some ((inner.skip (lexer.rest.take 1)).emit token)

/-- A closing bracket. One that was never opened is left to the grammar. -/
def closeFlow (lexer : Lexer) (token : Token) : Option Lexer := do
  let dropped ← lexer.dropKey
  let outer :=
    match dropped.outerKeys with
    | [] => dropped
    | key :: keys => { dropped with possibleKey := key, outerKeys := keys }
  some (((outer.allowKey false).skip (lexer.rest.take 1)).emit token)

def flowEntry (lexer : Lexer) : Option Lexer := do
  let dropped ← lexer.dropKey
  some (((dropped.allowKey true).skip [',']).emit .flowEntry)

/-- A dash in front of an entry. -/
def blockEntry (lexer : Lexer) : Option Lexer :=
  if !lexer.inFlow && !lexer.keyAllowed then none
  else do
    let column := lexer.position.column
    let opened := lexer.openBlock column lexer.tokens.length .blockSequenceStart
    let dropped ← opened.dropKey
    some (((dropped.allowKey true).skip ['-']).emit .blockEntry)

/-- A question mark in front of a key. -/
def explicitKey (lexer : Lexer) : Option Lexer :=
  if !lexer.inFlow && !lexer.keyAllowed then none
  else do
    let column := lexer.position.column
    let opened := lexer.openBlock column lexer.tokens.length .blockMappingStart
    let dropped ← opened.dropKey
    some (((dropped.allowKey (!lexer.inFlow)).skip ['?']).emit .key)

/-- A colon. If a key may have begun before it, that is a key now. -/
def colon (lexer : Lexer) : Option Lexer :=
  match lexer.possibleKey with
  | some possible =>
    let keyed := lexer.insertAfter possible.before .key
    let opened := keyed.openBlock possible.position.column possible.before .blockMappingStart
    some ((({ opened with possibleKey := none }.allowKey false).skip [':']).emit .value)
  | none =>
    if !lexer.inFlow && !lexer.keyAllowed then none
    else
      let column := lexer.position.column
      let opened := lexer.openBlock column lexer.tokens.length .blockMappingStart
      some (((opened.allowKey (!lexer.inFlow)).skip [':']).emit .value)

/-- Goes on behind something that was read. -/
def behind {α : Type} (lexer : Lexer) (scanned : Scanned α) (token : α → Token) : Lexer :=
  { lexer with position := scanned.position, rest := scanned.rest }.emit (token scanned.value)

/-- An anchor, alias, tag or quoted scalar, which may begin a key. -/
def marked {α : Type} (lexer : Lexer) (scan : Position → List Char → Option (Scanned α))
    (token : α → Token) : Option Lexer := do
  let saved ← lexer.saveKey
  let begun := (saved.allowKey false).skip (lexer.rest.take 1)
  let scanned ← scan begun.position begun.rest
  some (begun.behind scanned token)

def blockScalar (lexer : Lexer) (folded : Bool) : Option Lexer := do
  let dropped ← lexer.dropKey
  let begun := (dropped.allowKey true).skip (lexer.rest.take 1)
  let scanned ← scanBlock folded lexer.floor begun.position begun.rest
  some (begun.behind scanned (.scalar (if folded then .folded else .literal)))

def plainScalar (lexer : Lexer) : Option Lexer := do
  let saved ← lexer.saveKey
  let scanned ← scanPlain lexer.surroundings lexer.position [] .none lexer.rest
  let begun := saved.allowKey scanned.value.brokeLine
  some (begun.behind scanned fun plain => .scalar .plain plain.text)

/-- The characters that do not begin a plain scalar. -/
def isIndicator (c : Char) : Bool :=
  "-?:,[]#&*!|>'\"%@`".toList.contains c || c == '\x7b' || c == '\x7d'

/-- Whether a plain scalar begins here. -/
def beginsPlain (inFlow : Bool) (c : Char) (rest : List Char) : Bool :=
  (!isSpace c && !isBreak c && !isIndicator c) ||
    (c == '-' && !rest.head?.any isSpace) ||
    (!inFlow && (c == '?' || c == ':') && !startsBlank rest)

/-- Reads the token that begins with the character `c`. -/
def readToken (lexer : Lexer) (c : Char) (rest : List Char) : Option Lexer :=
  let atStart := lexer.position.column == 0
  let alone := startsBlank rest
  if atStart && c == '%' then lexer.directive
  else if atDocumentMark lexer.position (c :: rest) then
    lexer.documentMark (if c = '-' then .documentStart else .documentEnd)
  else if c = '[' then lexer.openFlow .flowSequenceStart
  else if c = '\x7b' then lexer.openFlow .flowMappingStart
  else if c = ']' then lexer.closeFlow .flowSequenceEnd
  else if c = '\x7d' then lexer.closeFlow .flowMappingEnd
  else if c = ',' then lexer.flowEntry
  else if c = '-' ∧ alone then lexer.blockEntry
  else if c = '?' ∧ (lexer.inFlow ∨ alone) then lexer.explicitKey
  else if c = ':' ∧ (lexer.inFlow ∨ alone) then lexer.colon
  else if c = '*' then lexer.marked scanName .reference
  else if c = '&' then lexer.marked scanName .anchor
  else if c = '!' then lexer.marked (scanTag lexer.inFlow) fun tag => .tag tag.handle tag.suffix
  else if c = '|' ∧ !lexer.inFlow then lexer.blockScalar false
  else if c = '>' ∧ !lexer.inFlow then lexer.blockScalar true
  else if c = '\'' then
    lexer.marked (scanSingle · [] .none false ·) (.scalar .singleQuoted)
  else if c = '"' then
    lexer.marked (scanDouble · [] .none .words ·) (.scalar .doubleQuoted)
  else if beginsPlain lexer.inFlow c rest then lexer.plainScalar
  else none

/-- The tokens of the rest of the text. A step that consumes nothing would be an error. -/
def finish (lexer : Lexer) : Option (List Token) := do
  let stopped ← lexer.toNextToken.dropStale
  let closed := stopped.closeBlocks (stopped.position.column + 1)
  match closed.rest with
  | [] =>
    let ended ← (closed.closeBlocks 0).dropKey
    some ended.tokens.reverse
  | c :: rest =>
    let next ← closed.readToken c rest
    if next.rest.length < lexer.rest.length then finish next else none
termination_by lexer.rest.length

end Lexer

/-- The tokens of a document's text. -/
def tokens? (text : List Char) : Option (List Token) := Lexer.finish { rest := text }

end MeterUplink.Yaml
