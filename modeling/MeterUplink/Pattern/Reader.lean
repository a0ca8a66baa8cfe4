import MeterUplink.Pattern.Fault
import MeterUplink.Text.Blank

namespace MeterUplink.Pattern

/-! The rest of a pattern's text, and where it begins. -/

structure Reader where
  rest : List Char
  place : Place := {}
  /-- Whether blanks and comments count as nothing. -/
  spaced : Bool := false
  /-- The names of groups so far. -/
  names : List (String × Span) := []

/-- Something that was read, where it stands, and what follows it. -/
structure Parsed (α : Type) where
  value : α
  span : Span
  reader : Reader

namespace Reader

/-- Behind the next character. -/
def next (reader : Reader) : Reader :=
  match reader.rest with
  | [] => reader
  | c :: rest => { reader with rest, place := reader.place.past c }

/-- Blanks and comments at the front of a text. A comment begins with a number sign and ends with
its line. -/
def skipBlanks (inComment : Bool) (place : Place) : List Char → Place × List Char
  | [] => (place, [])
  | c :: rest =>
    if inComment then skipBlanks (c ≠ '\n') (place.past c) rest
    else if Text.isBlank c then skipBlanks false (place.past c) rest
    else if c = '#' then skipBlanks true (place.past c) rest
    else (place, c :: rest)

/-- Behind what counts as nothing. -/
def skipSpace (reader : Reader) : Reader :=
  if reader.spaced then
    let (place, rest) := skipBlanks false reader.place reader.rest
    { reader with place, rest }
  else reader

/-- Behind the next character and what counts as nothing. -/
def nextSpaced (reader : Reader) : Reader := reader.next.skipSpace

/-- Behind several characters. -/
def nextTimes (reader : Reader) : Nat → Reader
  | 0 => reader
  | n + 1 => reader.next.nextTimes n

/-- Behind a text, if it stands here. -/
def past? (reader : Reader) (text : String) : Option Reader :=
  if text.toList.isPrefixOf reader.rest then some (reader.nextTimes text.length) else none

/-- The character behind the next one and behind what counts as nothing. -/
def secondSpaced? (reader : Reader) : Option Char :=
  let behind := reader.rest.drop 1
  if reader.spaced then
    let found := behind.dropWhile Text.isBlank
    let found :=
      if found.head? = some '#' then (found.drop 1).dropWhile Text.isBlank else found
    found.head?.orElse fun _ => behind.head?
  else behind.head?

/-- The span from a place up to here. -/
def since (reader : Reader) (start : Place) : Span := ⟨start, reader.place⟩

/-- The empty span in front of the next character. -/
def here (reader : Reader) : Span := ⟨reader.place, reader.place⟩

/-- The span of the next character. -/
def nextSpan (reader : Reader) : Span := ⟨reader.place, reader.next.place⟩

def fail {α : Type} (cause : Cause) (span : Span) : Except Fault α := .error ⟨cause, span, none⟩

end Reader

end MeterUplink.Pattern
