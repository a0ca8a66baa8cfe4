import MeterUplink.Numeral.Hex
import MeterUplink.Yaml.Scalar.Gap

namespace MeterUplink.Yaml

/-! Quoted scalars. In single quotes a quote is written twice; in double quotes a backslash
begins an escape, and one at the end of a line joins the next line without a space. -/

/-- What is being read inside double quotes. -/
inductive QuoteState where
  | words
  /-- Behind a backslash. -/
  | escape
  /-- The digits of a code point: how many are missing, and the value of those read. -/
  | code (missing value : Nat)
deriving Repr, DecidableEq

/-- What follows a backslash: one character, or a code point of some digits. -/
inductive Escape where
  | stands (c : Char)
  | digits (count : Nat)
deriving Repr, DecidableEq

def escape? : Char → Option Escape
  | '0' => some (.stands '\x00')
  | 'a' => some (.stands '\x07')
  | 'b' => some (.stands '\x08')
  | 't' => some (.stands '\t')
  | '\t' => some (.stands '\t')
  | 'n' => some (.stands '\n')
  | 'v' => some (.stands '\x0b')
  | 'f' => some (.stands '\x0c')
  | 'r' => some (.stands '\r')
  | 'e' => some (.stands '\x1b')
  | ' ' => some (.stands ' ')
  | '"' => some (.stands '"')
  | '/' => some (.stands '/')
  | '\\' => some (.stands '\\')
  | 'N' => some (.stands '\x85')
  | '_' => some (.stands '\xa0')
  | 'L' => some (.stands '\u2028')
  | 'P' => some (.stands '\u2029')
  | 'x' => some (.digits 2)
  | 'u' => some (.digits 4)
  | 'U' => some (.digits 8)
  | _ => none

def isScalarValue (code : Nat) : Bool := code < 0xD800 || (0xE000 ≤ code && code ≤ 0x10FFFF)

/-- Reads on in double quotes behind `text`, which is reversed, and a gap. -/
def scanDouble (position : Position) (text : List Char) (gap : Gap) :
    QuoteState → List Char → Option (Scanned String)
  | _, [] => none
  | .words, c :: rest =>
    if atDocumentMark position (c :: rest) then none
    else if isSpace c then scanDouble (position.past c) text (gap.addBlank c) .words rest
    else if isBreak c then scanDouble (position.past c) text (gap.addBreak c) .words rest
    else if c = '"' then
      some ⟨String.ofList (gap.appendTo text).reverse, position.past c, rest⟩
    else if c = '\\' then scanDouble (position.past c) (gap.appendTo text) .none .escape rest
    else scanDouble (position.past c) (c :: gap.appendTo text) .none .words rest
  | .escape, c :: rest =>
    if isBreak c then scanDouble (position.past c) text (.across none []) .words rest
    else
      match escape? c with
      | some (.stands meant) => scanDouble (position.past c) (meant :: text) .none .words rest
      | some (.digits count) => scanDouble (position.past c) text .none (.code count 0) rest
      | none => none
  | .code missing value, c :: rest =>
    match Hex.digitOf? c with
    | none => none
    | some digit =>
      let value := 16 * value + digit
      if 1 < missing then scanDouble (position.past c) text .none (.code (missing - 1) value) rest
      else if isScalarValue value then
        scanDouble (position.past c) (Char.ofNat value :: text) .none .words rest
      else none

/-- Reads on in single quotes; `pending` says that the last character was a quote. -/
def scanSingle (position : Position) (text : List Char) (gap : Gap) (pending : Bool) :
    List Char → Option (Scanned String)
  | [] => if pending then some ⟨String.ofList text.reverse, position, []⟩ else none
  | c :: rest =>
    if pending then
      if c = '\'' then scanSingle (position.past c) ('\'' :: text) .none false rest
      else some ⟨String.ofList text.reverse, position, c :: rest⟩
    else if atDocumentMark position (c :: rest) then none
    else if isSpace c then scanSingle (position.past c) text (gap.addBlank c) false rest
    else if isBreak c then scanSingle (position.past c) text (gap.addBreak c) false rest
    else if c = '\'' then scanSingle (position.past c) (gap.appendTo text) .none true rest
    else scanSingle (position.past c) (c :: gap.appendTo text) .none false rest

end MeterUplink.Yaml
