import MeterUplink.Pattern
import MeterUplink.Pattern.Grammar
import MeterUplink.Pattern.Property

namespace MeterUplink.Pattern

/-! What a written pattern means. Flags hold from where they stand to the end of their group, also
in the branches that follow. Patterns are matched against text, so one that looks at bytes may not
mean anything beyond ASCII. -/

open Reader (fail)

/-- The flags that change what a pattern means. -/
structure Flags where
  anyCase : Bool := false
  lineBounds : Bool := false
  dotIsAll : Bool := false
  unicode : Bool := true
  anyBreak : Bool := false
deriving Repr, DecidableEq

def Flags.change (flags : Flags) (changes : FlagChanges) : Flags where
  anyCase := (changes.change? .anyCase).getD flags.anyCase
  lineBounds := (changes.change? .lineBounds).getD flags.lineBounds
  dotIsAll := (changes.change? .dotIsAll).getD flags.dotIsAll
  unicode := (changes.change? .unicode).getD flags.unicode
  anyBreak := (changes.change? .anyBreak).getD flags.anyBreak

namespace Flags

/-- A set with all variants of its characters, where case does not count. -/
def fold (flags : Flags) (set : CharSet) : CharSet :=
  if flags.anyCase then .anyCase (!flags.unicode) set else set

/-- A set, or its complement, which holds more than ASCII. -/
def negate (flags : Flags) (negated : Bool) (span : Span) (set : CharSet) :
    Except Fault CharSet :=
  if !negated then .ok set
  else if flags.unicode then .ok (.complement set)
  else fail .invalidUtf8 span

/-- A character; a byte beyond ASCII is none. -/
def literal (flags : Flags) (c : Char) (isByte : Bool) (span : Span) : Except Fault Char :=
  if !flags.unicode && isByte && 128 ≤ c.toNat then fail .invalidUtf8 span else .ok c

/-- A character of a class. -/
def member (flags : Flags) (c : Char) (isByte : Bool) (span : Span) : Except Fault Char := do
  let c ← flags.literal c isByte span
  if !flags.unicode && 128 ≤ c.toNat then fail .unicodeNotAllowed span else .ok c

def dot (flags : Flags) (span : Span) : Except Fault CharSet :=
  if !flags.unicode then fail .invalidUtf8 span
  else if flags.dotIsAll then .ok .all
  else if flags.anyBreak then .ok (.complement (.ofList ['\r', '\n']))
  else .ok (.complement (.single '\n'))

end Flags

/-- Letters, digits and the low line. -/
def asciiWord : CharSet :=
  .union (.single '_') (.union (.range '0' '9') (.union (.range 'A' 'Z') (.range 'a' 'z')))

def AsciiClass.set : AsciiClass → CharSet
  | alnum => .union (.range '0' '9') (.union (.range 'A' 'Z') (.range 'a' 'z'))
  | alpha => .union (.range 'A' 'Z') (.range 'a' 'z')
  | ascii => .range '\x00' '\x7f'
  | blank => .ofList ['\t', ' ']
  | cntrl => .union (.range '\x00' '\x1f') (.single '\x7f')
  | digit => .range '0' '9'
  | graph => .range '!' '~'
  | lower => .range 'a' 'z'
  | print => .range ' ' '~'
  | punct =>
    .union (.range '!' '/') (.union (.range ':' '@') (.union (.range '[' '`') (.range '\x7b' '~')))
  | space => .union (.range '\t' '\r') (.single ' ')
  | upper => .range 'A' 'Z'
  | word => asciiWord
  | xdigit => .union (.range '0' '9') (.union (.range 'A' 'F') (.range 'a' 'f'))

def Shorthand.set (unicode : Bool) : Shorthand → CharSet
  | digit => if unicode then .among Text.decimalNumbers else .range '0' '9'
  | space => if unicode then .among Text.blankRanges else AsciiClass.space.set
  | word => if unicode then .among Text.wordRanges else asciiWord

def Assertion.boundary (flags : Flags) : Assertion → Boundary
  | caret =>
    if !flags.lineBounds then .textStart
    else if flags.anyBreak then .lineStartAnyBreak
    else .lineStart
  | dollar =>
    if !flags.lineBounds then .textEnd
    else if flags.anyBreak then .lineEndAnyBreak
    else .lineEnd
  | textStart => .textStart
  | textEnd => .textEnd
  | wordEdge => .word (!flags.unicode) .edge
  | noWordEdge => .word (!flags.unicode) .noEdge
  | wordStart => .word (!flags.unicode) .start
  | wordEnd => .word (!flags.unicode) .stop
  | wordStartHalf => .word (!flags.unicode) .startHalf
  | wordEndHalf => .word (!flags.unicode) .stopHalf

/-- The characters with a property, or those without it. -/
def propertySet (flags : Flags) (name : PropertyName) (negated : Bool) (span : Span) :
    Except Fault CharSet :=
  if !flags.unicode then fail .unicodeNotAllowed span
  else
    match name.set? with
    | .error cause => fail cause span
    | .ok set => flags.negate negated span (flags.fold set)

/-- The set of an atom in a class. -/
def Atom.memberSet (flags : Flags) (span : Span) : Atom → Except Fault CharSet
  | literal c isByte => do .ok (.single (← flags.member c isByte span))
  | shorthand kind negated => flags.negate negated span (kind.set flags.unicode)
  | property name negated => propertySet flags name negated span
  | dot | assertion _ => fail .classEscapeInvalid span

/-- Two operands of a class, joined by an operator. -/
def ClassOperator.apply (operator : ClassOperator) (first second : CharSet) : CharSet :=
  match operator with
  | intersection => .both first second
  | difference => .both first (.complement second)
  | symmetricDifference => .oneOf first second

def WrittenClass.set (flags : Flags) : WrittenClass → Except Fault CharSet
  | nothing => .ok .nothing
  | atom value span => value.memberSet flags span
  | range first last bytes firstSpan lastSpan => do
    let first ← flags.member first bytes.1 firstSpan
    let last ← flags.member last bytes.2 lastSpan
    .ok (.range first last)
  | ascii kind negated span => flags.negate negated span (flags.fold kind.set)
  | bracketed negated content span => do
    flags.negate negated span (flags.fold (← content.set flags))
  | union first second => do .ok (.union (← first.set flags) (← second.set flags))
  | operation operator first second => do
    let first ← first.set flags
    let second ← second.set flags
    .ok (operator.apply (flags.fold first) (flags.fold second))

/-- The pattern of an atom outside of classes. -/
def Atom.pattern (flags : Flags) (span : Span) : Atom → Except Fault Pattern
  | literal c isByte => do .ok (.one (flags.fold (.single (← flags.literal c isByte span))))
  | dot => do .ok (.one (← flags.dot span))
  | assertion kind => .ok (.boundary (kind.boundary flags))
  | shorthand kind negated => do
    .ok (.one (← flags.negate negated span (kind.set flags.unicode)))
  | property name negated => do .ok (.one (← propertySet flags name negated span))

/-- The pattern that never matches. -/
def never : Pattern := .one .nothing

mutual

/-- The pattern that was written, and the flags behind it. -/
def Written.pattern (flags : Flags) : Written → Except Fault (Pattern × Flags)
  | .empty => .ok (.empty, flags)
  | .flags changes => .ok (.empty, flags.change changes)
  | .atom value span => do .ok (← value.pattern flags span, flags)
  | .bracketed negated content span => do
    let set ← (WrittenClass.bracketed negated content span).set flags
    .ok (.one set, flags)
  | .repeated least most body _ => do
    let (body, flags) ← body.pattern flags
    .ok (.repeated least most body, flags)
  | .group changes body _ => do
    let (body, _) ← body.pattern (flags.change changes)
    .ok (body, flags)
  | .sequence items _ => sequencePattern flags items
  | .either branches _ => eitherPattern flags branches

def sequencePattern (flags : Flags) : List Written → Except Fault (Pattern × Flags)
  | [] => .ok (.empty, flags)
  | item :: items => do
    let (first, flags) ← item.pattern flags
    let (rest, flags) ← sequencePattern flags items
    .ok (.sequence first rest, flags)

def eitherPattern (flags : Flags) : List Written → Except Fault (Pattern × Flags)
  | [] => .ok (never, flags)
  | branch :: branches => do
    let (first, flags) ← branch.pattern flags
    let (rest, flags) ← eitherPattern flags branches
    .ok (.either first rest, flags)

end

/-! ## Size

A pattern is refused if a machine that looks for it would take too much memory. The size of that
machine is estimated from the characters and sets that have to match one after another. -/

def sizeLimit : Nat := 10485760

/-- The bytes that a machine takes for one character of a set. -/
def setSize (set : CharSet) : Nat :=
  match set with
  | .range first last =>
    if first = last then 32 * first.utf8Size else if last.toNat < 128 then 32 else 300
  | other => if other.isAscii then 32 + 8 * other.rangeCount else 300 + 7 * other.rangeCount

/-- The bytes that a machine takes for a pattern. -/
def size : Pattern → Nat
  | empty => 0
  | one set => setSize set
  | boundary _ => 32
  | sequence first second => first.size + second.size
  | either first second => first.size + second.size + 40
  | repeated least most body =>
    match most with
    | none => max 1 least * body.size + 64
    | some most => least * body.size + (most - least) * (body.size + 40)

/-- Why a text stands for no pattern. -/
inductive Refusal where
  | faulty (fault : Fault)
  | tooLarge
deriving Repr, DecidableEq

def Refusal.message (pattern : String) : Refusal → String
  | faulty fault => fault.message pattern
  | tooLarge => s!"Compiled regex exceeds size limit of {sizeLimit} bytes."

/-- Reads a pattern. -/
def ofText (text : String) : Except Refusal Pattern :=
  match (do let written ← Written.ofText text; written.pattern {}) with
  | .error fault => .error (.faulty fault)
  | .ok (pattern, _) => if sizeLimit < pattern.size then .error .tooLarge else .ok pattern

end MeterUplink.Pattern
