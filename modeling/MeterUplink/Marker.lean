import MeterUplink.Numeral.Hex
import MeterUplink.Text.Blank
import MeterUplink.Text.UpperCase

namespace MeterUplink.Marker

/-! OBIS markers. The canonical text of a marker is six bytes, each of two upper-case digits,
with single spaces between them. -/

/-- Upper case, single spaces between the parts and none around them. -/
def normalize (marker : String) : String :=
  String.ofList (Text.upper (Text.collapseBlanks (Text.trim marker.toList)))

def isUpperDigit (c : Char) : Bool :=
  (decide ('0' ≤ c) && decide (c ≤ '9')) || (decide ('A' ≤ c) && decide (c ≤ 'F'))

def isPair : List Char → Bool
  | [high, low] => isUpperDigit high && isUpperDigit low
  | _ => false

/-- Whether the text is canonical as it stands. -/
def isValid (marker : String) : Bool :=
  let pairs := marker.toList.splitOn ' '
  pairs.length == 6 && pairs.all isPair

/-- The six bytes of a marker in any spelling. -/
def bytes? (marker : String) : Option (List UInt8) :=
  let canonical := normalize marker
  if isValid canonical then
    (Hex.decode (String.ofList (canonical.toList.filter (· ≠ ' ')))).toOption
  else none

/-- The notation on a meter's display, A-B:C.D.E*F in decimal. -/
def reduced? (marker : String) : Option String :=
  match bytes? marker with
  | some [a, b, c, d, e, f] =>
    some s!"{a.toNat}-{b.toNat}:{c.toNat}.{d.toNat}.{e.toNat}*{f.toNat}"
  | _ => none

/-- What the well-known markers stand for. -/
def descriptions : List (String × String) :=
  [("01 01 01 08 00 FF", "Active energy + (total)"),
    ("01 01 02 08 00 FF", "Active energy - (total)"),
    ("01 01 03 08 00 FF", "Reactive energy + (total)"),
    ("01 01 04 08 00 FF", "Reactive energy - (total)"),
    ("01 01 0D 07 00 FF", "Power factor"),
    ("01 01 0E 07 00 FF", "Supply frequency"),
    ("01 01 20 07 00 FF", "Voltage (L1)"),
    ("01 01 34 07 00 FF", "Voltage (L2)"),
    ("01 01 48 07 00 FF", "Voltage (L3)"),
    ("01 01 1F 07 00 FF", "Current (L1)"),
    ("01 01 33 07 00 FF", "Current (L2)"),
    ("01 01 47 07 00 FF", "Current (L3)"),
    ("00 00 01 00 00 FF", "Date and time")]

def description? (marker : String) : Option String := descriptions.lookup (normalize marker)

end MeterUplink.Marker
