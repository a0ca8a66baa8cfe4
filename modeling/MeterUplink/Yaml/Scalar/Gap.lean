import MeterUplink.Yaml.Source

namespace MeterUplink.Yaml

/-! The blanks between two words of a plain or quoted scalar. Blanks inside a line stay; blanks
around line breaks go, one break becomes a space and of several the first one goes. -/

inductive Gap where
  /-- Blanks inside a line, the last one first. -/
  | within (blanks : List Char)
  /-- The first break, if it counts, and the breaks after it, the last one first. -/
  | across (first : Option Char) (more : List Char)
deriving Repr, DecidableEq

namespace Gap

def none : Gap := within []

def isAcross : Gap → Bool
  | within _ => false
  | across _ _ => true

def isNone : Gap → Bool
  | within blanks => blanks.isEmpty
  | across _ _ => false

def addBlank (c : Char) : Gap → Gap
  | within blanks => within (c :: blanks)
  | across first more => across first more

def addBreak (c : Char) : Gap → Gap
  | within _ => across (some c) []
  | across first more => across first (c :: more)

/-- The text, reversed, followed by what the gap stands for. -/
def appendTo (text : List Char) : Gap → List Char
  | within blanks => blanks ++ text
  | across (some '\n') [] => ' ' :: text
  | across (some '\n') more => more ++ text
  | across (some first) more => more ++ first :: text
  | across Option.none more => more ++ text

end Gap

end MeterUplink.Yaml
