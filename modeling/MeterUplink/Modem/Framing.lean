import MeterUplink.Settings

namespace MeterUplink.Modem

/-! How a byte is framed on the serial line. Numbers that no line knows stand for the usual
framing of eight data bits and one stop bit. -/

inductive DataBits where
  | five
  | six
  | seven
  | eight
deriving Repr, DecidableEq

inductive StopBits where
  | one
  | two
deriving Repr, DecidableEq

def DataBits.ofCount (bits : UInt8) : DataBits :=
  if bits = 5 then five else if bits = 6 then six else if bits = 7 then seven else eight

def StopBits.ofCount (bits : UInt8) : StopBits := if bits = 2 then two else one

end MeterUplink.Modem
