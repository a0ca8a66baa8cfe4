import MeterUplink.Text.GraphicData

namespace MeterUplink.Text

/-! Quoted texts and characters, as the journal and the messages about wrong digits show them.
The enclosing mark and the backslash are escaped, the usual control characters have their
letter, and every other character that is not graphic is written by its code point. -/

/-- The graphic characters stand for themselves in a quoted text. -/
def isGraphic (c : Char) : Bool :=
  decide (0x20 ≤ c.toNat) && (decide (c.toNat < 0x7F) || !inRanges hiddenRanges c)

/-- A code point in lower-case hexadecimal digits. -/
def codeDigits (c : Char) : List Char := Nat.toDigits 16 c.toNat

/-- One character inside a pair of the marks `mark`. -/
def escapeChar (mark : Char) (c : Char) : List Char :=
  if c = '\x00' then ['\\', '0']
  else if c = '\t' then ['\\', 't']
  else if c = '\r' then ['\\', 'r']
  else if c = '\n' then ['\\', 'n']
  else if c = '\\' ∨ c = mark then ['\\', c]
  else if isGraphic c then [c]
  else ['\\', 'u', '\x7b'] ++ codeDigits c ++ ['\x7d']

def quoteWith (mark : Char) (text : List Char) : List Char :=
  mark :: text.flatMap (escapeChar mark) ++ [mark]

/-- A text in double quotes. -/
def quotedText (text : String) : String := String.ofList (quoteWith '"' text.toList)

/-- A character in single quotes. -/
def quotedChar (c : Char) : String := String.ofList (quoteWith '\'' [c])

end MeterUplink.Text
