import MeterUplink.Numeral.Hex
import MeterUplink.Pattern.Reader
import MeterUplink.Pattern.Written

namespace MeterUplink.Pattern

/-! The escapes of a pattern. In each of these functions the reader stands before the character
that the function is about. -/

open Reader (fail)

/-- The character with a code point that was written from `digits` up to here. -/
def character (start digits : Place) (isByte : Bool) (code : Nat) (reader : Reader) :
    Except Fault (Parsed Atom) :=
  if code.isValidChar then .ok ⟨.literal (Char.ofNat code) isByte, reader.since start, reader⟩
  else fail .hexNoCharacter (reader.since digits)

/-- So many hexadecimal digits, behind those that have the given value. -/
def fixedHex (value : Nat) : Nat → Reader → Except Fault (Nat × Reader)
  | 0, reader => .ok (value, reader)
  | count + 1, reader =>
    match reader.rest with
    | [] => fail .escapeUnfinished reader.here
    | c :: _ =>
      match Hex.digitOf? c with
      | some digit => fixedHex (16 * value + digit) count reader.nextSpaced
      | none => fail .hexDigitInvalid reader.nextSpan

/-- The hexadecimal digits up to a closing brace. The first number bounds the characters left, and
`opening` is the place of the opening brace. -/
def bracedHex (opening : Place) : Nat → List Nat → Reader → Except Fault (List Nat × Reader)
  | 0, _, reader => fail .escapeUnfinished (reader.since opening)
  | fuel + 1, digits, reader =>
    match reader.rest with
    | [] => fail .escapeUnfinished (reader.since opening)
    | '\x7d' :: _ => .ok (digits.reverse, reader)
    | c :: _ =>
      match Hex.digitOf? c with
      | some digit => bracedHex opening fuel (digit :: digits) reader.nextSpaced
      | none => fail .hexDigitInvalid reader.nextSpan

/-- A code point behind the letter that announces it. -/
def hexEscape (start : Place) (count : Nat) (reader : Reader) : Except Fault (Parsed Atom) :=
  let opened := reader.nextSpaced
  match opened.rest with
  | [] => fail .escapeUnfinished opened.here
  | '\x7b' :: _ => do
    let (digits, closing) ←
      bracedHex opened.place (opened.rest.length + 1) [] opened.nextSpaced
    let behind := closing.nextSpaced
    if digits.isEmpty then fail .hexEmpty (behind.since opened.place)
    else
      let code := digits.foldl (fun value digit => 16 * value + digit) 0
      if code.isValidChar then character start opened.place false code behind
      else fail .hexNoCharacter ⟨opened.next.place, closing.place⟩
  | _ => do
    let (code, behind) ← fixedHex 0 count opened
    character start opened.place (count == 2) code behind

/-- A text up to a closing brace. The number bounds the characters left. -/
def bracedText : Nat → List Char → Reader → Except Fault (List Char × Reader)
  | 0, _, reader => fail .escapeUnfinished reader.here
  | fuel + 1, text, reader =>
    match reader.rest with
    | [] => fail .escapeUnfinished reader.here
    | '\x7d' :: _ => .ok (text.reverse, reader.next)
    | c :: _ => bracedText fuel (c :: text) reader.nextSpaced

/-- What is before and behind the first occurrence of a mark. -/
def splitAtMark? (mark : List Char) : List Char → Option (List Char × List Char)
  | [] => none
  | c :: rest =>
    if mark.isPrefixOf (c :: rest) then some ([], (c :: rest).drop mark.length)
    else (splitAtMark? mark rest).map fun (before, behind) => (c :: before, behind)

/-- The name of a property, and whether its value is denied. -/
def propertyName (text : List Char) : PropertyName × Bool :=
  let valued (parts : List Char × List Char) : PropertyName :=
    .valued (String.ofList parts.1) (String.ofList parts.2)
  match splitAtMark? ['!', '='] text with
  | some parts => (valued parts, true)
  | none =>
    match (splitAtMark? [':'] text).orElse fun _ => splitAtMark? ['='] text with
    | some parts => (valued parts, false)
    | none => (.named (String.ofList text), false)

/-- A property behind its letter, which is a capital if the property is denied. -/
def propertyEscape (start : Place) (denied : Bool) (reader : Reader) :
    Except Fault (Parsed Atom) :=
  let opened := reader.nextSpaced
  match opened.rest with
  | [] => fail .escapeUnfinished opened.here
  | '\x7b' :: _ => do
    let (text, behind) ← bracedText (opened.rest.length + 1) [] opened.nextSpaced
    let (name, valueDenied) := propertyName text
    .ok ⟨.property name (denied != valueDenied), behind.since start, behind⟩
  | '\\' :: _ => fail .propertyInvalid opened.nextSpan
  | c :: _ =>
    let behind := opened.nextSpaced
    .ok ⟨.property (.named (String.singleton c)) denied, behind.since start, behind⟩

def isBoundaryLetter (c : Char) : Bool := c.isAlpha || c == '-'

/-- The letters of a kind of word boundary. The number bounds the characters left. -/
def boundaryName : Nat → List Char → Reader → List Char × Reader
  | 0, name, reader => (name.reverse, reader)
  | fuel + 1, name, reader =>
    match reader.rest with
    | [] => (name.reverse, reader)
    | c :: _ =>
      if isBoundaryLetter c then boundaryName fuel (c :: name) reader.nextSpaced
      else (name.reverse, reader)

def boundaryOfName? : String → Option Assertion
  | "start" => some .wordStart
  | "end" => some .wordEnd
  | "start-half" => some .wordStartHalf
  | "end-half" => some .wordEndHalf
  | _ => none

/-- Behind the letter of a word boundary. Braces there may hold its kind; if they do not begin
with a letter they are left to what repeats the boundary. -/
def wordBoundary (start : Place) (reader : Reader) : Except Fault (Parsed Atom) :=
  let plain : Parsed Atom := ⟨.assertion .wordEdge, reader.since start, reader⟩
  match reader.rest with
  | '\x7b' :: _ =>
    let opened := reader.nextSpaced
    match opened.rest with
    | [] => fail .wordBoundaryOrCountUnfinished (opened.since start)
    | c :: _ =>
      if isBoundaryLetter c then
        let (name, closing) := boundaryName opened.rest.length [] opened
        if closing.rest.head? = some '\x7d' then
          match boundaryOfName? (String.ofList name) with
          | some kind => .ok ⟨.assertion kind, closing.next.since start, closing.next⟩
          | none => fail .wordBoundaryUnknown (closing.since opened.place)
        else fail .wordBoundaryUnclosed (closing.since reader.place)
      else .ok plain
  | _ => .ok plain

/-- The characters that a backslash always makes ordinary ones. -/
def isMeta (c : Char) : Bool :=
  "\\.+*?()|[]^$#&-~".toList.contains c || c == '\x7b' || c == '\x7d'

/-- The characters that may have a backslash for nothing. -/
def isEscapable (c : Char) : Bool := c.toNat < 128 && !c.isAlphanum && c != '<' && c != '>'

/-- The letters that stand for something behind a backslash. -/
def letterEscape? : Char → Option Atom
  | 'a' => some (.literal '\x07' false)
  | 'f' => some (.literal '\x0c' false)
  | 't' => some (.literal '\t' false)
  | 'n' => some (.literal '\n' false)
  | 'r' => some (.literal '\r' false)
  | 'v' => some (.literal '\x0b' false)
  | 'A' => some (.assertion .textStart)
  | 'z' => some (.assertion .textEnd)
  | 'B' => some (.assertion .noWordEdge)
  | '<' => some (.assertion .wordStart)
  | '>' => some (.assertion .wordEnd)
  | 'd' => some (.shorthand .digit false)
  | 'D' => some (.shorthand .digit true)
  | 's' => some (.shorthand .space false)
  | 'S' => some (.shorthand .space true)
  | 'w' => some (.shorthand .word false)
  | 'W' => some (.shorthand .word true)
  | _ => none

/-- An escape. -/
def escape (reader : Reader) : Except Fault (Parsed Atom) :=
  let start := reader.place
  let letter := reader.next
  let behind := letter.next
  match letter.rest with
  | [] => fail .escapeUnfinished (letter.since start)
  | c :: _ =>
    if c.isDigit then fail .backreference (behind.since start)
    else if c = 'x' then hexEscape start 2 letter
    else if c = 'u' then hexEscape start 4 letter
    else if c = 'U' then hexEscape start 8 letter
    else if c = 'p' ∨ c = 'P' then propertyEscape start (c == 'P') letter
    else if c = 'b' then wordBoundary start behind
    else if isMeta c ∨ isEscapable c then
      .ok ⟨.literal c false, behind.since start, behind⟩
    else
      match letterEscape? c with
      | some atom => .ok ⟨atom, behind.since start, behind⟩
      | none => fail .escapeUnknown (behind.since start)

end MeterUplink.Pattern
