import MeterUplink.Text.CodeRange

namespace MeterUplink.Text

/-! Scripts of the Unicode standard. Every character belongs to one script. A character that
several scripts use belongs to one of them, or to the common or inherited ones, and the other
scripts list it as borrowed. -/

structure Script where
  /-- The long and the short name, and further ones, in small letters. -/
  names : List String
  ranges : List CodeRange
  /-- Characters of other scripts that are used in this one. -/
  borrowed : List CodeRange
deriving Repr, DecidableEq

/-- Whether the characters of a script that others borrow are only theirs. -/
def Script.givesAway (script : Script) : Bool :=
  script.names.contains "common" || script.names.contains "inherited"

end MeterUplink.Text
