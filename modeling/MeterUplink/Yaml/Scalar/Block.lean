import MeterUplink.Yaml.Source

namespace MeterUplink.Yaml

/-! Block scalars: the indented lines under a bar or an angle bracket. -/

/-- What becomes of the line breaks at the end. -/
inductive Chomping where
  | strip
  | clip
  | keep
deriving Repr, DecidableEq

/-- The signs behind the bar: chomping, and how far the lines are indented. -/
structure BlockHeader where
  chomping : Chomping := .clip
  increment : Option Nat := none
deriving Repr, DecidableEq

def chompingSign? : Char → Option Chomping
  | '+' => some .keep
  | '-' => some .strip
  | _ => none

/-- A digit from 1 to 9. -/
def incrementSign? (c : Char) : Option Nat :=
  if '1' ≤ c ∧ c ≤ '9' then some (c.toNat - 48) else none

/-- The signs in either order, each at most once. -/
def blockHeader : List Char → BlockHeader × List Char
  | first :: second :: rest =>
    match chompingSign? first, incrementSign? first with
    | some chomping, _ =>
      match incrementSign? second with
      | some increment => (⟨chomping, some increment⟩, rest)
      | none => (⟨chomping, none⟩, second :: rest)
    | none, some increment =>
      match chompingSign? second with
      | some chomping => (⟨chomping, some increment⟩, rest)
      | none => (⟨.clip, some increment⟩, second :: rest)
    | none, none => ({}, first :: second :: rest)
  | [only] =>
    match chompingSign? only, incrementSign? only with
    | some chomping, _ => (⟨chomping, none⟩, [])
    | none, some increment => (⟨.clip, some increment⟩, [])
    | none, none => ({}, [only])
  | [] => ({}, [])

/-- A block scalar while it is read. The texts are reversed. -/
structure BlockState where
  text : List Char := []
  /-- The break that ended the last line with content. -/
  leadingBreak : List Char := []
  /-- The breaks of the empty lines after it. -/
  emptyLines : List Char := []
  /-- Whether the last line with content began with a blank. -/
  indentedLine : Bool := false
  /-- The column of the content, once it is known. -/
  indent : Option Nat
  /-- The widest indentation so far. -/
  widest : Nat := 0
  /-- Whether the current line has shown its content. -/
  inLine : Bool := false

namespace BlockState

/-- Adds the breaks before a new line; in a folded scalar a single break between two lines that
are not indented further becomes a space. -/
def beginLine (folded : Bool) (state : BlockState) (startsIndented : Bool) : BlockState :=
  let folds := folded && state.leadingBreak == ['\n'] && !state.indentedLine && !startsIndented
  let joint :=
    if folds then (if state.emptyLines.isEmpty then [' '] else []) else state.leadingBreak
  { state with
    text := state.emptyLines ++ joint ++ state.text
    leadingBreak := []
    emptyLines := []
    indentedLine := startsIndented
    inLine := true }

/-- The text of the scalar, with the breaks at its end as the chomping says. -/
def finish (chomping : Chomping) (state : BlockState) : String :=
  let ended :=
    match chomping with
    | .strip => state.text
    | .clip => state.leadingBreak ++ state.text
    | .keep => state.emptyLines ++ state.leadingBreak ++ state.text
  String.ofList ended.reverse

end BlockState

/-- Reads the lines of a block scalar; `floor` is the least column that its content may have. -/
def scanBlockLines (folded : Bool) (chomping : Chomping) (floor : Nat) (position : Position)
    (state : BlockState) : List Char → Option (Scanned String)
  | [] => some ⟨state.finish chomping, position, []⟩
  | c :: rest =>
    if state.inLine then
      let state :=
        if isBreak c then { state with leadingBreak := [c], inLine := false }
        else { state with text := c :: state.text }
      scanBlockLines folded chomping floor (position.past c) state rest
    else
      let indenting := state.indent.all fun indent => position.column < indent
      if indenting && c == ' ' then
        scanBlockLines folded chomping floor (position.past c) state rest
      else if indenting && c == '\t' then none
      else
        let widest := max state.widest position.column
        if isBreak c then
          scanBlockLines folded chomping floor (position.past c)
            { state with emptyLines := c :: state.emptyLines, widest := widest } rest
        else
          let indent := state.indent.getD (max (max widest floor) 1)
          if position.column = indent then
            let begun := { state with indent := some indent }.beginLine folded (isSpace c)
            scanBlockLines folded chomping floor (position.past c)
              { begun with text := c :: begun.text } rest
          else some ⟨state.finish chomping, position, c :: rest⟩

/-- The rest of the line of the header: blanks and a comment. -/
def skipHeaderLine (position : Position) (text : List Char) : Option (Position × List Char) :=
  let blanks := text.takeWhile isSpace
  let afterBlanks := text.dropWhile isSpace
  let comment :=
    if afterBlanks.head? = some '#' then afterBlanks.takeWhile (!isBreak ·) else []
  let position := position.pastAll (blanks ++ comment)
  match afterBlanks.drop comment.length with
  | [] => some (position, [])
  | c :: rest => if isBreak c then some (position.past c, rest) else none

/-- Reads a block scalar behind its bar or angle bracket. -/
def scanBlock (folded : Bool) (floor : Nat) (position : Position) (text : List Char) :
    Option (Scanned String) := do
  let (header, rest) := blockHeader text
  let signs := text.take (text.length - rest.length)
  let (position, rest) ← skipHeaderLine (position.pastAll signs) rest
  let indent := header.increment.map fun increment => (floor - 1) + increment
  scanBlockLines folded header.chomping floor position { indent := indent } rest

end MeterUplink.Yaml
