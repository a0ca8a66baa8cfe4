import MeterUplink.Cipher.Aes128
import MeterUplink.Cipher.Feedback
import MeterUplink.Payload

namespace MeterUplink.Payload

/-! Encrypted payloads: the bytes that the digits stand for are enciphered in feedback mode and
written as lower-case digits again, so the length stays the same. -/

open Cipher

/-- The bytes of a payload. The number of characters is looked at before the digits. -/
def bytes (payload : Payload) : Except PayloadError (List UInt8) :=
  if payload.length % 2 = 1 then .error (.oddLength payload.length)
  else (Hex.decode payload.text).mapError .invalidHex

def ofBytes (bytes : List UInt8) : Payload := ⟨String.ofList (Hex.encode bytes)⟩

/-- Encryption under any block cipher. -/
def encryptWith (cipher : BlockCipher) (key : CipherKey) (payload : Payload) :
    Except PayloadError Payload :=
  payload.bytes.map fun plain => ofBytes (feedbackEncrypt (cipher key.key) key.iv plain)

/-- Decryption under any block cipher, which is run forwards here too. -/
def decryptWith (cipher : BlockCipher) (key : CipherKey) (payload : Payload) :
    Except PayloadError Payload :=
  payload.bytes.map fun sent => ofBytes (feedbackDecrypt (cipher key.key) key.iv sent)

def encrypt (key : CipherKey) (payload : Payload) : Except PayloadError Payload :=
  encryptWith Aes128.encipher key payload

def decrypt (key : CipherKey) (payload : Payload) : Except PayloadError Payload :=
  decryptWith Aes128.encipher key payload

end MeterUplink.Payload
