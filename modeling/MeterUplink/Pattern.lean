import MeterUplink.Pattern.CharSet

namespace MeterUplink

/-! Patterns of texts, and whether a text contains a match.

A pattern is matched from all places of a text at once. The places are the gaps before, between
and behind the characters; a set of them is a list of marks, one for each gap, and a pattern takes
the marks where it may begin to the marks where it may end. -/

/-- How a place lies to the words around it. -/
inductive WordEdge where
  | edge
  | noEdge
  | start
  | stop
  /-- What stands before it belongs to no word. -/
  | startHalf
  /-- What stands behind it belongs to no word. -/
  | stopHalf
deriving Repr, DecidableEq

/-- A condition on a place. -/
inductive Boundary where
  | textStart
  | textEnd
  | lineStart
  | lineEnd
  /-- The same where a carriage return ends a line, alone or with a line feed. -/
  | lineStartAnyBreak
  | lineEndAnyBreak
  | word (asciiOnly : Bool) (place : WordEdge)
deriving Repr, DecidableEq

inductive Pattern where
  | empty
  | one (set : CharSet)
  | boundary (condition : Boundary)
  | sequence (first second : Pattern)
  | either (first second : Pattern)
  /-- At least and at most so many times, or as often as one likes. -/
  | repeated (least : Nat) (most : Option Nat) (body : Pattern)
deriving Repr, DecidableEq

def WordEdge.holds (before behind : Bool) : WordEdge → Bool
  | edge => before != behind
  | noEdge => before == behind
  | start => !before && behind
  | stop => before && !behind
  | startHalf => !before
  | stopHalf => !behind

/-- Whether the condition holds between two characters, or at an end of the text. -/
def Boundary.holds (before behind : Option Char) : Boundary → Bool
  | textStart => before.isNone
  | textEnd => behind.isNone
  | lineStart => before.isNone || before == some '\n'
  | lineEnd => behind.isNone || behind == some '\n'
  | lineStartAnyBreak =>
    before.isNone || before == some '\n' || (before == some '\r' && behind != some '\n')
  | lineEndAnyBreak =>
    behind.isNone || behind == some '\r' || (behind == some '\n' && before != some '\r')
  | word asciiOnly place =>
    let inWord := if asciiOnly then Text.isAsciiWordChar else Text.isWordChar
    place.holds (before.any inWord) (behind.any inWord)

/-- Marks of places of a text. -/
abbrev Marks := List Bool

namespace Marks

def isEmpty (marks : Marks) : Bool := !marks.contains true

def union (first second : Marks) : Marks := first.zipWith (· || ·) second

/-- Moves every mark behind the next character, where that is in the set. -/
def advance (set : CharSet) (text : List Char) (marks : Marks) : Marks :=
  false :: text.zipWith (fun c mark => mark && set.contains c) marks

/-- Keeps the marks where a condition holds; `before` stands in front of the text. -/
def keepAt (condition : Boundary) (before : Option Char) : List Char → Marks → Marks
  | text, mark :: marks =>
    let kept := mark && condition.holds before text.head?
    match text with
    | [] => [kept]
    | c :: rest => kept :: keepAt condition (some c) rest marks
  | _, [] => []

/-- Takes a step so many times, as long as it changes the marks. -/
def iterate (step : Marks → Marks) : Nat → Marks → Marks
  | 0, marks => marks
  | n + 1, marks =>
    let next := step marks
    if next = marks then marks else iterate step n next

/-- Takes a step at most so many times and keeps the marks from before each. -/
def collect (step : Marks → Marks) : Nat → Marks → Marks :=
  iterate fun marks => marks.union (step marks)

end Marks

namespace Pattern

/-- The places behind the matches that begin at marked places. -/
def ends (text : List Char) : Pattern → Marks → Marks
  | empty, marks => marks
  | one set, marks => marks.advance set text
  | boundary condition, marks => marks.keepAt condition none text
  | sequence first second, marks => second.ends text (first.ends text marks)
  | either first second, marks => (first.ends text marks).union (second.ends text marks)
  | repeated least most body, marks =>
    let repetitions :=
      match most with
      | some most => most - least
      | none => text.length + 1
    (marks.iterate (body.ends text) least).collect (body.ends text) repetitions

/-- Whether a match begins anywhere in the text. -/
def occursIn (pattern : Pattern) (text : String) : Bool :=
  let characters := text.toList
  !(pattern.ends characters (List.replicate (characters.length + 1) true)).isEmpty

end Pattern

end MeterUplink
