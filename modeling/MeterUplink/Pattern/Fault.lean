import MeterUplink.Text.Lines

namespace MeterUplink.Pattern

/-! What can be wrong with the text of a pattern, and how it is shown: under the line of the
pattern that has the fault, with marks below its place. -/

/-- A place in the text of a pattern; lines and columns count from one. -/
structure Place where
  line : Nat := 1
  column : Nat := 1
deriving Repr, DecidableEq

/-- The place behind a character. -/
def Place.past (place : Place) (c : Char) : Place :=
  if c = '\n' then ⟨place.line + 1, 1⟩ else ⟨place.line, place.column + 1⟩

structure Span where
  start : Place
  stop : Place
deriving Repr, DecidableEq

def Span.isOneLine (span : Span) : Bool := span.start.line == span.stop.line

/-- The most levels of a pattern inside each other. -/
def nestingLimit : Nat := 250

inductive Cause where
  | classEscapeInvalid
  | classRangeInvalid
  | classRangeBound
  | classUnclosed
  | decimalInvalid
  | hexEmpty
  | hexNoCharacter
  | hexDigitInvalid
  | escapeUnfinished
  | escapeUnknown
  | flagDanglingNegation
  | flagDuplicate
  | flagRepeatedNegation
  | flagMissing
  | flagUnknown
  | groupNameDuplicate
  | groupNameEmpty
  | groupNameInvalid
  | groupNameUnclosed
  | groupUnclosed
  | groupUnopened
  | nestingTooDeep
  | countOrderInvalid
  | countMissing
  | countUnclosed
  | repetitionMissing
  | wordBoundaryUnclosed
  | wordBoundaryUnknown
  | wordBoundaryOrCountUnfinished
  | propertyInvalid
  | backreference
  | lookAround
  | unicodeNotAllowed
  | invalidUtf8
  | propertyUnknown
  | propertyValueUnknown
deriving Repr, DecidableEq

def Cause.message : Cause → String
  | classEscapeInvalid => "invalid escape sequence found in character class"
  | classRangeInvalid => "invalid character class range, the start must be <= the end"
  | classRangeBound => "invalid range boundary, must be a literal"
  | classUnclosed => "unclosed character class"
  | decimalInvalid => "decimal literal invalid"
  | hexEmpty => "hexadecimal literal empty"
  | hexNoCharacter => "hexadecimal literal is not a Unicode scalar value"
  | hexDigitInvalid => "invalid hexadecimal digit"
  | escapeUnfinished => "incomplete escape sequence, reached end of pattern prematurely"
  | escapeUnknown => "unrecognized escape sequence"
  | flagDanglingNegation => "dangling flag negation operator"
  | flagDuplicate => "duplicate flag"
  | flagRepeatedNegation => "flag negation operator repeated"
  | flagMissing => "expected flag but got end of regex"
  | flagUnknown => "unrecognized flag"
  | groupNameDuplicate => "duplicate capture group name"
  | groupNameEmpty => "empty capture group name"
  | groupNameInvalid => "invalid capture group character"
  | groupNameUnclosed => "unclosed capture group name"
  | groupUnclosed => "unclosed group"
  | groupUnopened => "unopened group"
  | nestingTooDeep =>
    s!"exceed the maximum number of nested parentheses/brackets ({nestingLimit})"
  | countOrderInvalid => "invalid repetition count range, the start must be <= the end"
  | countMissing => "repetition quantifier expects a valid decimal"
  | countUnclosed => "unclosed counted repetition"
  | repetitionMissing => "repetition operator missing expression"
  | wordBoundaryUnclosed =>
    "special word boundary assertion is either unclosed or contains an invalid character"
  | wordBoundaryUnknown =>
    "unrecognized special word boundary assertion, valid choices are: start, end, start-half " ++
      "or end-half"
  | wordBoundaryOrCountUnfinished =>
    "found either the beginning of a special word boundary or a bounded repetition on a \\b " ++
      "with an opening brace, but no closing brace"
  | propertyInvalid => "invalid Unicode character class"
  | backreference => "backreferences are not supported"
  | lookAround => "look-around, including look-ahead and look-behind, is not supported"
  | unicodeNotAllowed => "Unicode not allowed here"
  | invalidUtf8 => "pattern can match invalid UTF-8"
  | propertyUnknown => "Unicode property not found"
  | propertyValueUnknown => "Unicode property value not found"

structure Fault where
  cause : Cause
  span : Span
  /-- An earlier place that the fault refers to. -/
  earlier : Option Span := none
deriving Repr, DecidableEq

namespace Fault

/-- The places of a fault from front to back. -/
def spans (fault : Fault) : List Span := fault.earlier.toList ++ [fault.span]

/-- Goes on with the marks below a line, of which `used` columns are filled. -/
def marksFrom (used : Nat) : List Span → List Char
  | [] => []
  | span :: rest =>
    let gap := span.start.column - 1 - used
    let width := max 1 (span.stop.column - span.start.column)
    List.replicate gap ' ' ++ List.replicate width '^' ++ marksFrom (used + gap + width) rest

/-- A line of the pattern, with marks below if it has places of the fault. -/
def shownLine (fault : Fault) (front padding : List Char) (number : Nat) (line : List Char) :
    List (List Char) :=
  match fault.spans.filter fun span => span.isOneLine && span.start.line == number with
  | [] => [front ++ line]
  | spans => [front ++ line, padding ++ marksFrom 0 spans]

/-- A number with blanks in front of it. -/
def padNumber (width number : Nat) : List Char :=
  let digits := Nat.toDigits 10 number
  List.replicate (width - digits.length) ' ' ++ digits

/-- The lines of a pattern with their marks; of several lines each has its number. -/
def shownLines (fault : Fault) (pattern : List Char) : List (List Char) :=
  let lines := Text.lines pattern
  let count := if pattern.getLast? = some '\n' then lines.length + 1 else lines.length
  let width := if count ≤ 1 then 0 else (Nat.toDigits 10 count).length
  (lines.zipIdx 1).flatMap fun (line, number) =>
    if width = 0 then fault.shownLine (List.replicate 4 ' ') (List.replicate 4 ' ') number line
    else
      fault.shownLine (padNumber width number ++ [':', ' ']) (List.replicate (width + 2) ' ')
        number line

/-- The words for a place that reaches over several lines. -/
def spanWords (span : Span) : String :=
  s!"on line {span.start.line} (column {span.start.column}) through line {span.stop.line} " ++
    s!"(column {span.stop.column - 1})"

/-- The whole message about a fault of a pattern. -/
def message (fault : Fault) (pattern : String) : String :=
  let characters := pattern.toList
  let divider := if characters.contains '\n' then [List.replicate 79 '~'] else []
  let shown := divider ++ fault.shownLines characters ++ divider
  let wide :=
    if characters.contains '\n' then (fault.spans.filter (!·.isOneLine)).map spanWords else []
  let lines := ["regex parse error:"] ++ shown.map String.ofList ++ wide ++
    [s!"error: {fault.cause.message}"]
  "\n".intercalate lines

end Fault

end MeterUplink.Pattern
