import MeterUplink.Text.Blank

namespace MeterUplink

/-! Signed integers of 128 bits, the range of every quantity a meter reports. -/

/-- An integer from -2^127 to 2^127 - 1, held as its two's complement word. -/
structure Signed128 where
  bits : BitVec 128
deriving Repr, DecidableEq

namespace Signed128

def value (n : Signed128) : Int := n.bits.toInt

/-- Two to the power of 127, the first integer above the range. -/
def bound : Int := 0x80000000000000000000000000000000

/-- The integer as a quantity, if it lies in the range. -/
def ofInt? (n : Int) : Option Signed128 :=
  if -bound ≤ n ∧ n < bound then some ⟨BitVec.ofInt 128 n⟩ else none

def render (n : Signed128) : String := toString n.value

end Signed128

/-- The number written by ASCII decimal digits, at least one of them. -/
def decimal? (digits : List Char) : Option Nat :=
  if digits.isEmpty || !digits.all Char.isDigit then none
  else some (digits.foldl (fun n c => 10 * n + (c.toNat - 48)) 0)

/-- The number written by digits after at most one sign. -/
def signedDecimal? : List Char → Option Int
  | '+' :: digits => (decimal? digits).map Int.ofNat
  | '-' :: digits => (decimal? digits).map fun n => -Int.ofNat n
  | digits => (decimal? digits).map Int.ofNat

/-- Reads a decimal integer between blanks, leading zeros allowed. -/
def Signed128.ofText? (text : String) : Option Signed128 :=
  (signedDecimal? (Text.trim text.toList)).bind Signed128.ofInt?

end MeterUplink
