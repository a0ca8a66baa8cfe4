namespace MeterUplink.Yaml

/-! The characters of a YAML document, and the places among them. -/

def isSpace (c : Char) : Bool := c == ' ' || c == '\t'

/-- Line breaks, after the usual ones have become line feeds. -/
def isBreak (c : Char) : Bool := c == '\n' || c == '\u2028' || c == '\u2029'

/-- Whether the text is at its end, at a blank or at a line break. -/
def startsBlank : List Char → Bool
  | [] => true
  | c :: _ => isSpace c || isBreak c

/-- The characters that a document may contain. -/
def isAllowed (c : Char) : Bool :=
  let code := c.toNat
  code == 0x9 || code == 0xA || code == 0xD || (0x20 ≤ code && code ≤ 0x7E) || code == 0x85 ||
    (0xA0 ≤ code && code ≤ 0xD7FF) || (0xE000 ≤ code && code ≤ 0xFFFD) || 0x10000 ≤ code

/-- Carriage return, line feed, both together and the next-line character are one break. -/
def unifyBreaks : List Char → List Char
  | [] => []
  | c :: rest =>
    if c = '\r' ∧ rest.head? = some '\n' then unifyBreaks rest
    else (if c = '\r' ∨ c = '\x85' then '\n' else c) :: unifyBreaks rest

/-- The text of a document, if all of its characters are allowed. -/
def source? (text : String) : Option (List Char) :=
  if text.toList.all isAllowed then some (unifyBreaks text.toList) else none

/-- A place in the text, counted from zero: the bytes before it, and its line and column. -/
structure Position where
  index : Nat := 0
  line : Nat := 0
  column : Nat := 0
deriving Repr, DecidableEq

/-- The place behind a character. -/
def Position.past (position : Position) (c : Char) : Position :=
  if isBreak c then ⟨position.index + c.utf8Size, position.line + 1, 0⟩
  else ⟨position.index + c.utf8Size, position.line, position.column + 1⟩

/-- The place behind several characters. -/
def Position.pastAll (position : Position) (text : List Char) : Position :=
  text.foldl Position.past position

/-- Something that was read, and what follows it. -/
structure Scanned (α : Type) where
  value : α
  position : Position
  rest : List Char

/-- Three dashes or dots at the beginning of a line, on their own, part documents. -/
def atDocumentMark (position : Position) (text : List Char) : Bool :=
  position.column == 0 &&
    ("---".toList.isPrefixOf text || "...".toList.isPrefixOf text) && startsBlank (text.drop 3)

end MeterUplink.Yaml
