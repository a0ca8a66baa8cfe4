namespace MeterUplink.Cipher

/-! Blocks of sixteen bytes, the unit on which a block cipher works. -/

abbrev Block := Vector UInt8 16

/-- A block cipher takes a key and a block to a block. -/
abbrev BlockCipher := Block → Block → Block

namespace Block

/-- The block moved on by one byte: the first byte leaves, the new one comes last. -/
def shiftIn (block : Block) (byte : UInt8) : Block :=
  Vector.ofFn fun i => if h : i.val + 1 < 16 then block[i.val + 1] else byte

/-- The bytes as a block, if there are sixteen of them. -/
def ofBytes? (bytes : List UInt8) : Option Block :=
  if h : bytes.length = 16 then some ⟨bytes.toArray, by simpa using h⟩ else none

end Block

end MeterUplink.Cipher
