import MeterUplink.Pattern.Fault

namespace MeterUplink.Pattern

/-! Patterns as they are written, before the flags in them have taken effect. -/

/-- The letters of the flags. -/
inductive Flag where
  | anyCase
  | lineBounds
  | dotIsAll
  | swapGreed
  | unicode
  | anyBreak
  | spaced
deriving Repr, DecidableEq

/-- What is written between a question mark and the end of the flags: flags that are set, and
behind a dash flags that are cleared. -/
structure FlagChanges where
  set : List Flag := []
  cleared : List Flag := []
deriving Repr, DecidableEq

/-- Whether a flag is set, cleared or left alone. -/
def FlagChanges.change? (changes : FlagChanges) (flag : Flag) : Option Bool :=
  if changes.set.contains flag then some true
  else if changes.cleared.contains flag then some false
  else none

inductive Assertion where
  | caret
  | dollar
  | textStart
  | textEnd
  | wordEdge
  | noWordEdge
  | wordStart
  | wordEnd
  | wordStartHalf
  | wordEndHalf
deriving Repr, DecidableEq

/-- The classes with a letter of their own. -/
inductive Shorthand where
  | digit
  | space
  | word
deriving Repr, DecidableEq

/-- A property of characters, by its own name or by its name and value. -/
inductive PropertyName where
  | named (name : String)
  | valued (name value : String)
deriving Repr, DecidableEq

/-- What one character of a pattern or one escape stands for. -/
inductive Atom where
  /-- A character; `isByte` says that it was written as a byte. -/
  | literal (c : Char) (isByte : Bool)
  | dot
  | assertion (kind : Assertion)
  | shorthand (kind : Shorthand) (negated : Bool)
  | property (name : PropertyName) (negated : Bool)
deriving Repr, DecidableEq

/-- The classes that are named between colons. -/
inductive AsciiClass where
  | alnum
  | alpha
  | ascii
  | blank
  | cntrl
  | digit
  | graph
  | lower
  | print
  | punct
  | space
  | upper
  | word
  | xdigit
deriving Repr, DecidableEq

inductive ClassOperator where
  | intersection
  | difference
  | symmetricDifference
deriving Repr, DecidableEq

/-- What stands between square brackets. -/
inductive WrittenClass where
  | nothing
  | atom (atom : Atom) (span : Span)
  | range (first last : Char) (bytes : Bool × Bool) (firstSpan lastSpan : Span)
  | ascii (kind : AsciiClass) (negated : Bool) (span : Span)
  | bracketed (negated : Bool) (content : WrittenClass) (span : Span)
  | union (first second : WrittenClass)
  | operation (operator : ClassOperator) (first second : WrittenClass)
deriving Repr

inductive Written where
  | empty
  | flags (changes : FlagChanges)
  | atom (atom : Atom) (span : Span)
  | bracketed (negated : Bool) (content : WrittenClass) (span : Span)
  | repeated (least : Nat) (most : Option Nat) (body : Written) (span : Span)
  | group (changes : FlagChanges) (body : Written) (span : Span)
  | sequence (items : List Written) (span : Span)
  | either (branches : List Written) (span : Span)
deriving Repr

/-- Whether an operator can repeat it. -/
def Written.isRepeatable : Written → Bool
  | .empty | .flags _ => false
  | _ => true

/-- Items one after another; one item alone stands for itself. -/
def Written.ofItems (span : Span) : List Written → Written
  | [] => .empty
  | [item] => item
  | items => .sequence items span

/-- Branches of which one has to match. -/
def Written.ofBranches (span : Span) : List Written → Written
  | [branch] => branch
  | branches => .either branches span

mutual

/-- The first level that lies too deep, where `depth` more levels are allowed. -/
def Written.tooDeep? (depth : Nat) : Written → Option Span
  | .empty | .flags _ | .atom _ _ => none
  | .bracketed _ _ span => if depth = 0 then some span else none
  | .repeated _ _ body span | .group _ body span =>
    if depth = 0 then some span else body.tooDeep? (depth - 1)
  | .sequence items span | .either items span =>
    if depth = 0 then some span else firstTooDeep? (depth - 1) items

def firstTooDeep? (depth : Nat) : List Written → Option Span
  | [] => none
  | item :: items => (item.tooDeep? depth).orElse fun _ => firstTooDeep? depth items

end

end MeterUplink.Pattern
