import MeterUplink.Numeral.Signed128

namespace MeterUplink

/-! Masks keep the lowest bits of a quantity. -/

/-- The lowest `width` bits of the two's complement word; all of them from 128 on. -/
def Signed128.mask (n : Signed128) (width : Nat) : BitVec 128 :=
  if 128 ≤ width then n.bits else n.bits &&& ((1#128 <<< width) - 1#128)

end MeterUplink
