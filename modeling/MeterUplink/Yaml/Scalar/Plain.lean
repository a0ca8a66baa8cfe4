import MeterUplink.Yaml.Scalar.Gap

namespace MeterUplink.Yaml

/-! Plain scalars: words without marks around them. -/

/-- Where a scalar stands: inside brackets, or in a block whose content begins at a column. -/
structure Surroundings where
  inFlow : Bool
  floor : Nat
deriving Repr, DecidableEq

/-- The characters that set off the parts of a collection in brackets. -/
def isFlowMark (c : Char) : Bool :=
  c == ',' || c == '[' || c == ']' || c == '\x7b' || c == '\x7d'

/-- The text of a plain scalar, and whether it is followed by a line break. -/
structure PlainText where
  text : String
  brokeLine : Bool

/-- A colon directly before a mark of the surrounding brackets is an error. -/
def strayColon (surroundings : Surroundings) (c : Char) (rest : List Char) : Bool :=
  surroundings.inFlow && c == ':' && rest.head?.any fun next => isFlowMark next || next == '?'

/-- Whether a character that is no blank ends the scalar. -/
def endsPlain (surroundings : Surroundings) (position : Position) (gap : Gap) (c : Char)
    (rest : List Char) : Bool :=
  (!surroundings.inFlow && !gap.isNone && position.column < surroundings.floor) ||
    atDocumentMark position (c :: rest) || (c == '#' && !gap.isNone) ||
    (c == ':' && startsBlank rest) || (surroundings.inFlow && isFlowMark c)

/-- Reads on behind `text`, which is reversed, and a gap. -/
def scanPlain (surroundings : Surroundings) (position : Position) (text : List Char) (gap : Gap) :
    List Char → Option (Scanned PlainText)
  | [] => some ⟨⟨String.ofList text.reverse, gap.isAcross⟩, position, []⟩
  | c :: rest =>
    if isSpace c then
      if gap.isAcross && position.column < surroundings.floor && c == '\t' then none
      else scanPlain surroundings (position.past c) text (gap.addBlank c) rest
    else if isBreak c then scanPlain surroundings (position.past c) text (gap.addBreak c) rest
    else if endsPlain surroundings position gap c rest then
      some ⟨⟨String.ofList text.reverse, gap.isAcross⟩, position, c :: rest⟩
    else if strayColon surroundings c rest then none
    else scanPlain surroundings (position.past c) (c :: gap.appendTo text) .none rest

end MeterUplink.Yaml
