import MeterUplink.Cipher.Block
import MeterUplink.Numeral.Hex
import MeterUplink.Text.Blank

namespace MeterUplink.Cipher

/-! Key material: a key and an initialization vector, each one block written in hexadecimal
digits. -/

inductive KeyPart where
  | key
  | iv
deriving Repr, DecidableEq

def KeyPart.name : KeyPart → String
  | key => "key"
  | iv => "iv"

/-- Why a text is no block. -/
inductive KeyFault where
  | digits (fault : Hex.Fault)
  | size (bytes : Nat)
deriving Repr, DecidableEq

def KeyFault.message : KeyFault → String
  | digits fault => fault.message
  | size bytes => s!"expected 16 bytes, got {bytes}"

structure KeyError where
  part : KeyPart
  fault : KeyFault
deriving Repr, DecidableEq

def KeyError.message (error : KeyError) : String :=
  s!"Invalid cipher {error.part.name}: {error.fault.message}"

structure CipherKey where
  key : Block
  iv : Block
deriving DecidableEq

/-- The only form in which a key is ever shown. -/
def CipherKey.masked : String := "CipherKey \x7b .. \x7d"

/-- Reads one block; blanks around the digits do not count. -/
def readBlock (part : KeyPart) (text : String) : Except KeyError Block :=
  match Hex.decode (Text.trimmed text) with
  | .error fault => .error ⟨part, .digits fault⟩
  | .ok bytes =>
    match Block.ofBytes? bytes with
    | some block => .ok block
    | none => .error ⟨part, .size bytes.length⟩

/-- Reads the key, then the initialization vector. -/
def CipherKey.ofHex (key iv : String) : Except KeyError CipherKey := do
  let keyBlock ← readBlock .key key
  let ivBlock ← readBlock .iv iv
  pure ⟨keyBlock, ivBlock⟩

end MeterUplink.Cipher
