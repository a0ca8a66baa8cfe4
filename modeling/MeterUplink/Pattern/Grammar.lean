import MeterUplink.Pattern.ClassGrammar
import MeterUplink.Text.Category

namespace MeterUplink.Pattern

/-! The grammar of patterns: branches between bars, items one after another, groups in
parentheses, and the operators that repeat the item before them. -/

open Reader (fail)

/-! ## Groups -/

/-- What is written between the question mark of a group and its colon or parenthesis. -/
inductive FlagItem where
  | negation
  | flag (flag : Flag)
deriving Repr, DecidableEq

def flagItem? : Char → Option FlagItem
  | '-' => some .negation
  | 'i' => some (.flag .anyCase)
  | 'm' => some (.flag .lineBounds)
  | 's' => some (.flag .dotIsAll)
  | 'U' => some (.flag .swapGreed)
  | 'u' => some (.flag .unicode)
  | 'R' => some (.flag .anyBreak)
  | 'x' => some (.flag .spaced)
  | _ => none

/-- The flags up to a colon or a closing parenthesis; the items so far are reversed. The number
bounds the characters left. -/
def flagItems : Nat → List (FlagItem × Span) → Reader →
    Except Fault (List FlagItem × Reader)
  | 0, _, reader => fail .flagMissing reader.here
  | fuel + 1, items, reader =>
    match reader.rest with
    | [] => fail .flagMissing reader.here
    | c :: _ =>
      if c = ':' ∨ c = ')' then
        match items with
        | (.negation, span) :: _ => fail .flagDanglingNegation span
        | _ => .ok ((items.map (·.1)).reverse, reader)
      else
        match flagItem? c with
        | none => fail .flagUnknown reader.nextSpan
        | some item =>
          match items.lookup item with
          | some earlier =>
            let cause := if item = .negation then Cause.flagRepeatedNegation else .flagDuplicate
            .error ⟨cause, reader.nextSpan, some earlier⟩
          | none => flagItems fuel ((item, reader.nextSpan) :: items) reader.next

/-- The flags in front of the dash are set, and those behind it are cleared. -/
def FlagChanges.ofItems (items : List FlagItem) : FlagChanges :=
  let flags (items : List FlagItem) : List Flag := items.filterMap fun item =>
    match item with
    | .flag flag => some flag
    | .negation => none
  ⟨flags (items.takeWhile (· ≠ .negation)), flags (items.dropWhile (· ≠ .negation))⟩

/-- The characters of a group's name. -/
def isNameChar (first : Bool) (c : Char) : Bool :=
  if first then c == '_' || Text.isAlphabetic c
  else "_.[]".toList.contains c || Text.isAlphabetic c || Text.isNumeric c

/-- The name of a group up to its closing angle. The number bounds the characters left. -/
def groupNameEnd (start : Place) : Nat → Reader → Except Fault Reader
  | 0, reader => fail .groupNameUnclosed reader.here
  | fuel + 1, reader =>
    match reader.rest with
    | [] => fail .groupNameUnclosed reader.here
    | c :: _ =>
      if c = '>' then .ok reader
      else if isNameChar (reader.place = start) c then groupNameEnd start fuel reader.next
      else fail .groupNameInvalid reader.nextSpan

/-- The name of a group behind its opening angle. No two groups have the same name. -/
def groupName (reader : Reader) : Except Fault Reader := do
  let closing ← groupNameEnd reader.place (reader.rest.length + 1) reader
  let length := reader.rest.length - closing.rest.length
  let name := String.ofList (reader.rest.take length)
  let span := closing.since reader.place
  if name.isEmpty then fail .groupNameEmpty ⟨reader.place, reader.place⟩
  else
    match reader.names.lookup name with
    | some earlier => .error ⟨.groupNameDuplicate, span, some earlier⟩
    | none => .ok { closing.next with names := (name, span) :: reader.names }

/-- What an opening parenthesis begins. -/
inductive GroupFront where
  | flags (changes : FlagChanges)
  | group (changes : FlagChanges)

/-- The first text of several that stands here. -/
def pastAny? (reader : Reader) (texts : List String) : Option Reader :=
  texts.findSome? reader.past?

/-- An opening parenthesis and what belongs to it. -/
def groupFront (reader : Reader) : Except Fault (GroupFront × Reader) := do
  let opened := reader.nextSpaced
  match pastAny? opened ["?=", "?!", "?<=", "?<!"] with
  | some behind => fail .lookAround (behind.since reader.place)
  | none =>
    match pastAny? opened ["?P<", "?<"] with
    | some behind => .ok (.group {}, ← groupName behind)
    | none =>
      match opened.past? "?" with
      | none => .ok (.group {}, opened)
      | some behind =>
        if behind.rest.isEmpty then fail .groupUnclosed reader.nextSpan
        else
          let (items, closing) ← flagItems (behind.rest.length + 1) [] behind
          let changes := FlagChanges.ofItems items
          if closing.rest.head? = some ':' then .ok (.group changes, closing.next)
          else if items.isEmpty then fail .repetitionMissing opened.here
          else .ok (.flags changes, closing.next)

/-! ## Repetitions -/

/-- Decimal digits, of which those so far are reversed. The number bounds the characters left. -/
def digitsFrom : Nat → List Char → Reader → List Char × Reader
  | 0, digits, reader => (digits.reverse, reader)
  | fuel + 1, digits, reader =>
    match reader.rest with
    | [] => (digits.reverse, reader)
    | c :: _ =>
      if c.isDigit then digitsFrom fuel (c :: digits) reader.nextSpaced
      else (digits.reverse, reader)

/-- Behind blanks, whether they count or not. -/
def skipAnyBlanks (reader : Reader) : Reader :=
  reader.nextTimes (reader.rest.takeWhile Text.isBlank).length

/-- The largest number in a repetition. -/
def largestCount : Nat := UInt32.size - 1

/-- A number, or what is wrong with it; the reader goes on behind it either way. -/
def count (reader : Reader) : Except Fault Nat × Reader :=
  let start := skipAnyBlanks reader
  let (digits, behind) := digitsFrom start.rest.length [] start
  let span := behind.since start.place
  let value := digits.foldl (fun n c => 10 * n + (c.toNat - 48)) 0
  let result : Except Fault Nat :=
    if digits.isEmpty then fail .countMissing span
    else if largestCount < value then fail .decimalInvalid span
    else .ok value
  (result, skipAnyBlanks behind)

/-- Behind the question mark that may follow an operator. -/
def skipLazy (reader : Reader) : Reader :=
  if reader.rest.head? = some '?' then reader.next else reader

/-- The numbers between braces. -/
def counts (reader : Reader) : Except Fault ((Nat × Option Nat) × Reader) := do
  let start := reader.place
  let opened := reader.nextSpaced
  if opened.rest.isEmpty then fail .countUnclosed (opened.since start)
  else
    let (least, behind) := count opened
    let (range, closing) ←
      match behind.rest with
      | [] => fail .countUnclosed (behind.since start)
      | ',' :: _ =>
        let second := behind.nextSpaced
        if second.rest.isEmpty then fail .countUnclosed (second.since start)
        else if second.rest.head? = some '\x7d' then do .ok ((← least, none), second)
        else do
          let least ← least
          let (most, closing) := count second
          .ok ((least, some (← most)), closing)
      | _ => do
        let least ← least
        .ok ((least, some least), behind)
    if closing.rest.head? ≠ some '\x7d' then fail .countUnclosed (closing.since start)
    else
      let behind := skipLazy closing.nextSpaced
      if range.2.any (· < range.1) then fail .countOrderInvalid (behind.since start)
      else .ok (range, behind)

/-! ## Branches -/

/-- A group, or the whole pattern, as far as it has been read. -/
structure Frame where
  start : Place
  branchStart : Place
  /-- The branches so far, the last one first. -/
  branches : List Written := []
  /-- The items of the last branch so far, the last one first. -/
  items : List Written := []

namespace Frame

def beginAt (place : Place) : Frame := { start := place, branchStart := place }

def push (frame : Frame) (item : Written) : Frame := { frame with items := item :: frame.items }

/-- The last branch, which ends here. -/
def branch (frame : Frame) (reader : Reader) : Written :=
  .ofItems ⟨frame.branchStart, reader.place⟩ frame.items.reverse

/-- Behind the bar in front of another branch. -/
def nextBranch (frame : Frame) (reader : Reader) : Frame :=
  { frame with
    branchStart := reader.next.place
    branches := frame.branch reader :: frame.branches
    items := [] }

def finish (frame : Frame) (reader : Reader) : Written :=
  .ofBranches ⟨frame.start, reader.place⟩ (frame.branch reader :: frame.branches).reverse

end Frame

/-- Where an item begins. -/
def Written.start : Written → Place
  | .atom _ span | .bracketed _ _ span | .repeated _ _ _ span | .group _ _ span => span.start
  | .sequence _ span | .either _ span => span.start
  | .empty | .flags _ => {}

/-- The operators of one character that repeat an item. -/
def operatorCounts? : Char → Option (Nat × Option Nat)
  | '?' => some (0, some 1)
  | '*' => some (0, none)
  | '+' => some (1, none)
  | _ => none

/-- The operator that stands here. -/
def repetition (c : Char) (reader : Reader) : Except Fault ((Nat × Option Nat) × Reader) :=
  match operatorCounts? c with
  | some range => .ok (range, skipLazy reader.next)
  | none => counts reader

/-- One character or escape outside of classes. -/
def atom (c : Char) (reader : Reader) : Except Fault (Parsed Atom) :=
  let single (atom : Atom) : Except Fault (Parsed Atom) :=
    .ok ⟨atom, reader.nextSpan, reader.next⟩
  if c = '\\' then escape reader
  else if c = '.' then single .dot
  else if c = '^' then single (.assertion .caret)
  else if c = '$' then single (.assertion .dollar)
  else single (.literal c false)

/-- Reads up to the end of a group, or of the whole pattern if no group was opened. The number
bounds the characters left. -/
def content : Nat → (opened : Option Span) → Frame → Reader → Except Fault (Written × Reader)
  | 0, _, frame, reader => .ok (frame.finish reader, reader)
  | fuel + 1, opened, frame, reader =>
    let reader := reader.skipSpace
    match reader.rest with
    | [] =>
      match opened with
      | some span => fail .groupUnclosed span
      | none => .ok (frame.finish reader, reader)
    | c :: _ =>
      if c = ')' then
        match opened with
        | some _ => .ok (frame.finish reader, reader)
        | none => fail .groupUnopened reader.nextSpan
      else if c = '|' then content fuel opened (frame.nextBranch reader) reader.next
      else if c = '(' then do
        let (front, inside) ← groupFront reader
        match front with
        | .flags changes =>
          let spaced := (changes.change? .spaced).getD reader.spaced
          content fuel opened (frame.push (.flags changes)) { inside with spaced }
        | .group changes =>
          let spaced := (changes.change? .spaced).getD reader.spaced
          let (body, closing) ←
            content fuel (some reader.nextSpan) (.beginAt inside.place) { inside with spaced }
          let behind := { closing.next with spaced := reader.spaced }
          let group := Written.group changes body (behind.since reader.place)
          content fuel opened (frame.push group) behind
      else if c = '[' then do
        let parsed ← bracketedClass reader
        content fuel opened (frame.push parsed.value) parsed.reader
      else if (operatorCounts? c).isSome || c == '\x7b' then
        match frame.items with
        | [] => fail .repetitionMissing reader.here
        | item :: items =>
          if item.isRepeatable then do
            let ((least, most), behind) ← repetition c reader
            let repeated := Written.repeated least most item ⟨item.start, behind.place⟩
            content fuel opened { frame with items := repeated :: items } behind
          else fail .repetitionMissing reader.here
      else do
        let parsed ← atom c reader
        content fuel opened (frame.push (.atom parsed.value parsed.span)) parsed.reader

/-- The pattern that a text is written for. -/
def Written.ofText (text : String) : Except Fault Written := do
  let (written, _) ← content (text.length + 1) none (.beginAt {}) { rest := text.toList }
  match written.tooDeep? nestingLimit with
  | some span => fail .nestingTooDeep span
  | none => .ok written

end MeterUplink.Pattern
