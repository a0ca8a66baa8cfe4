import MeterUplink.Cipher.Key
import MeterUplink.Numeral.Signed128
import MeterUplink.Register

namespace MeterUplink

/-! The payload of an uplink: the text of hexadecimal digits that is cut into frames, in plain
or encrypted form. -/

structure Payload where
  text : String
deriving Repr, DecidableEq

namespace Payload

/-- The number of characters. -/
def length (payload : Payload) : Nat := payload.text.length

def isEmpty (payload : Payload) : Bool := payload.text.isEmpty

end Payload

/-- What can go wrong between the readings and the frames. -/
inductive PayloadError where
  | missingReading (register : Register)
  | negativeMagnitude (register : Register) (value : Signed128)
  | oddLength (length : Nat)
  | invalidHex (fault : Hex.Fault)
  | invalidChunkLength
  | invalidKey (error : Cipher.KeyError)
deriving Repr, DecidableEq

def PayloadError.message : PayloadError → String
  | .missingReading register => s!"Register {register.name} has no reading"
  | .negativeMagnitude register value =>
    s!"Register {register.name} has negative magnitude {value.render} which cannot be sent unmasked"
  | .oddLength length => s!"Payload has odd length {length} and cannot be converted to bytes"
  | .invalidHex fault => s!"Payload is not a hex string: {fault.message}"
  | .invalidChunkLength => "Chunk length must be at least 1"
  | .invalidKey error => error.message

end MeterUplink
