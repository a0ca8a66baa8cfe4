import MeterUplink.Pattern.Escape

namespace MeterUplink.Pattern

/-! Classes of characters between square brackets: single characters, ranges, escapes, named
classes, and classes inside of classes, joined by operators. -/

open Reader (fail)

namespace AsciiClass

def ofName? : String → Option AsciiClass
  | "alnum" => some alnum
  | "alpha" => some alpha
  | "ascii" => some ascii
  | "blank" => some blank
  | "cntrl" => some cntrl
  | "digit" => some digit
  | "graph" => some graph
  | "lower" => some lower
  | "print" => some print
  | "punct" => some punct
  | "space" => some space
  | "upper" => some upper
  | "word" => some word
  | "xdigit" => some xdigit
  | _ => none

end AsciiClass

/-- A class that is named between colons, with a caret in front of the name if it is denied. -/
def asciiClass? (reader : Reader) : Option (Parsed WrittenClass) := do
  let opened ← reader.past? "[:"
  let denied := opened.past? "^"
  let named := denied.getD opened
  let name := named.rest.takeWhile (· ≠ ':')
  let behind ← (named.nextTimes name.length).past? ":]"
  let kind ← AsciiClass.ofName? (String.ofList name)
  let span := behind.since reader.place
  some ⟨.ascii kind denied.isSome span, span, behind⟩

/-- One character or escape. -/
def classAtom (reader : Reader) : Except Fault (Parsed Atom) :=
  match reader.rest with
  | [] => fail .classUnclosed reader.here
  | '\\' :: _ => escape reader
  | c :: _ => .ok ⟨.literal c false, reader.nextSpan, reader.next⟩

/-- An atom as a member of a class, where a condition on places has no meaning. -/
def classMember (atom : Parsed Atom) : Except Fault WrittenClass :=
  match atom.value with
  | .assertion _ => fail .classEscapeInvalid atom.span
  | .dot => fail .classEscapeInvalid atom.span
  | other => .ok (.atom other atom.span)

/-- An atom as an end of a range. -/
def classBound (atom : Parsed Atom) : Except Fault (Char × Bool) :=
  match atom.value with
  | .literal c isByte => .ok (c, isByte)
  | _ => fail .classRangeBound atom.span

/-- One member or range of the class that was opened at a span. -/
def classRange (opened : Span) (reader : Reader) : Except Fault (WrittenClass × Reader) := do
  let first ← classAtom reader
  let behind := first.reader.skipSpace
  if behind.rest.isEmpty then fail .classUnclosed opened
  else if behind.rest.head? ≠ some '-' ∨ behind.secondSpaced? = some ']' ∨
      behind.secondSpaced? = some '-' then
    .ok (← classMember first, behind)
  else
    let bound := behind.nextSpaced
    if bound.rest.isEmpty then fail .classUnclosed opened
    else
      let last ← classAtom bound
      let (low, lowByte) ← classBound first
      let (high, highByte) ← classBound last
      if high < low then fail .classRangeInvalid ⟨first.span.start, last.span.stop⟩
      else
        .ok (.range low high (lowByte, highByte) first.span last.span, last.reader)

/-- What stands at the front of a class: whether it is denied, and the dashes or the closing
bracket that are members there. -/
structure ClassFront where
  negated : Bool
  content : WrittenClass
  span : Span
  reader : Reader

/-- Dashes at the front of a class. The number bounds the characters left. -/
def frontDashes (start : Place) : Nat → WrittenClass → Reader →
    Except Fault (WrittenClass × Reader)
  | 0, content, reader => .ok (content, reader)
  | fuel + 1, content, reader =>
    match reader.rest with
    | '-' :: _ =>
      let behind := reader.nextSpaced
      if behind.rest.isEmpty then fail .classUnclosed ⟨start, start⟩
      else
        let dash := WrittenClass.atom (.literal '-' false) reader.nextSpan
        frontDashes start fuel (.union content dash) behind
    | _ => .ok (content, reader)

/-- The opening bracket of a class and what belongs to it. -/
def classFront (reader : Reader) : Except Fault ClassFront := do
  let start := reader.place
  let opened := reader.nextSpaced
  if opened.rest.isEmpty then fail .classUnclosed (opened.since start)
  else
    let negated := opened.rest.head? == some '^'
    let front := if negated then opened.nextSpaced else opened
    if front.rest.isEmpty then fail .classUnclosed (front.since start)
    else
      let (content, behind) ← frontDashes start front.rest.length .nothing front
      if behind.place = front.place ∧ behind.rest.head? = some ']' then
        let closed := behind.nextSpaced
        if closed.rest.isEmpty then fail .classUnclosed (closed.since start)
        else
          let member := WrittenClass.atom (.literal ']' false) behind.nextSpan
          .ok ⟨negated, member, closed.since start, closed⟩
      else .ok ⟨negated, content, behind.since start, behind⟩

/-- The operators between the operands of a class, each of two equal characters. -/
def classOperator? (reader : Reader) : Option (ClassOperator × Reader) :=
  match reader.past? "&&" with
  | some behind => some (.intersection, behind)
  | none =>
    match reader.past? "--" with
    | some behind => some (.difference, behind)
    | none => (reader.past? "~~").map (.symmetricDifference, ·)

/-- An operand behind another one and the operator between them. -/
def combineClass (left : Option (ClassOperator × WrittenClass)) (right : WrittenClass) :
    WrittenClass :=
  match left with
  | some (operator, left) => .operation operator left right
  | none => right

/-- The members of a class that was opened at a span, up to its closing bracket and behind it.
The number bounds the characters left. -/
def classContent : Nat → (opened : Span) → Option (ClassOperator × WrittenClass) →
    WrittenClass → Reader → Except Fault (WrittenClass × Reader)
  | 0, opened, _, _, _ => fail .classUnclosed opened
  | fuel + 1, opened, left, content, reader =>
    let reader := reader.skipSpace
    match reader.rest with
    | [] => fail .classUnclosed opened
    | ']' :: _ => .ok (combineClass left content, reader.next)
    | '[' :: _ =>
      match asciiClass? reader with
      | some named => classContent fuel opened left (.union content named.value) named.reader
      | none => do
        let front ← classFront reader
        let (inner, behind) ← classContent fuel front.span none front.content front.reader
        let nested := WrittenClass.bracketed front.negated inner (behind.since reader.place)
        classContent fuel opened left (.union content nested) behind
    | _ =>
      match classOperator? reader with
      | some (operator, behind) =>
        classContent fuel opened (some (operator, combineClass left content)) .nothing behind
      | none => do
        let (member, behind) ← classRange opened reader
        classContent fuel opened left (.union content member) behind

/-- A whole class. -/
def bracketedClass (reader : Reader) : Except Fault (Parsed Written) := do
  let front ← classFront reader
  let (content, behind) ←
    classContent (front.reader.rest.length + 1) front.span none front.content front.reader
  let span := behind.since reader.place
  .ok ⟨.bracketed front.negated content span, span, behind⟩

end MeterUplink.Pattern
