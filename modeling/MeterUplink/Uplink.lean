import MeterUplink.Holder
import MeterUplink.Payload.Chunks
import MeterUplink.Payload.Encoding
import MeterUplink.Payload.Encryption
import MeterUplink.Reading.Extraction

namespace MeterUplink

/-! An uplink: everything derived from one snapshot of a log, ready to be sent. -/

structure Uplink where
  readings : ReadingSet
  payload : Payload
  ciphertext : Option Payload
  chunks : Chunks

inductive UplinkError where
  | extract (error : ExtractError)
  | payload (error : PayloadError)
deriving Repr, DecidableEq

def UplinkError.message : UplinkError → String
  | .extract error => s!"Extraction failed: {error.message}"
  | .payload error => s!"Encoding failed: {error.message}"

namespace Uplink

/-- The payload as the key turns it, if there is a key. -/
def encryptIfKeyed (cipherKey : Option Cipher.CipherKey) (payload : Payload) :
    Except PayloadError (Option Payload) :=
  match cipherKey with
  | some key => (payload.encrypt key).map some
  | none => .ok none

/-- Extracts, encodes, encrypts if there is a key, and cuts. -/
def prepare (holder : Holder) (log : String) : Journaled UplinkError Uplink := do
  let settings := holder.settings.payload
  let readings ← (ReadingSet.ofText holder.table log).mapError .extract
  let payload ← (readings.encode settings).mapError .payload
  Journaled.emit .info .run s!"Payload {payload.text}"
  let ciphertext ← Journaled.ofExcept
    ((encryptIfKeyed holder.cipherKey payload).mapError .payload)
  let chunks ←
    ((ciphertext.getD payload).chunks settings.chunkLength.toNat).mapError .payload
  pure ⟨readings, payload, ciphertext, chunks⟩

end Uplink

end MeterUplink
