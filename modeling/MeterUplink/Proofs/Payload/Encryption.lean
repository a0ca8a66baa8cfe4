import MeterUplink.Payload.Encryption
import MeterUplink.Proofs.Journal
import MeterUplink.Proofs.Numeral.HexBytes

namespace MeterUplink.Payload

/-! Encryption and decryption undo each other up to the case of the digits, under any block
cipher. -/

open Cipher

theorem bytes_ofBytes (content : List UInt8) : (ofBytes content).bytes = .ok content := by
  have even : ¬ (ofBytes content).length % 2 = 1 := by
    rw [length, ofBytes, String.length_ofList, Hex.length_encode]
    omega
  rw [bytes, if_neg even, ofBytes, Hex.decode_encode]
  rfl

theorem ofBytes_of_bytes {payload : Payload} {content : List UInt8}
    (read : payload.bytes = .ok content) :
    ofBytes content = ⟨payload.text.map Char.toLower⟩ := by
  rw [bytes] at read
  split at read
  · cases read
  · have written := Hex.encode_of_decode (mapError_eq_ok_iff.mp read)
    rw [ofBytes, written, ← String.toList_map, String.ofList_toList]

theorem encryptWith_of_bytes (cipher : BlockCipher) (key : CipherKey) {payload : Payload}
    {content : List UInt8} (read : payload.bytes = .ok content) :
    encryptWith cipher key payload =
      .ok (ofBytes (feedbackEncrypt (cipher key.key) key.iv content)) :=
  map_eq_ok_iff.mpr ⟨content, read, rfl⟩

theorem decryptWith_of_encryptWith {cipher : BlockCipher} {key : CipherKey}
    {payload ciphertext : Payload} (encrypted : encryptWith cipher key payload = .ok ciphertext) :
    decryptWith cipher key ciphertext = .ok ⟨payload.text.map Char.toLower⟩ := by
  obtain ⟨plain, read, rfl⟩ := map_eq_ok_iff.mp encrypted
  rw [decryptWith, bytes_ofBytes, ← ofBytes_of_bytes read]
  simp only [Except.map, feedbackDecrypt_feedbackEncrypt]

theorem encryptWith_of_decryptWith {cipher : BlockCipher} {key : CipherKey}
    {payload plain : Payload} (decrypted : decryptWith cipher key payload = .ok plain) :
    encryptWith cipher key plain = .ok ⟨payload.text.map Char.toLower⟩ := by
  obtain ⟨sent, read, rfl⟩ := map_eq_ok_iff.mp decrypted
  rw [encryptWith, bytes_ofBytes, ← ofBytes_of_bytes read]
  simp only [Except.map, feedbackEncrypt_feedbackDecrypt]

theorem length_of_bytes {payload : Payload} {content : List UInt8}
    (read : payload.bytes = .ok content) : payload.length = 2 * content.length := by
  have same := congrArg Payload.length (ofBytes_of_bytes read)
  simp only [length, ofBytes, String.length_ofList, Hex.length_encode, String.length_map] at same
  exact same.symm

theorem length_of_encryptWith {cipher : BlockCipher} {key : CipherKey}
    {payload ciphertext : Payload} (encrypted : encryptWith cipher key payload = .ok ciphertext) :
    ciphertext.length = payload.length := by
  obtain ⟨plain, read, rfl⟩ := map_eq_ok_iff.mp encrypted
  rw [length_of_bytes read, length_of_bytes (bytes_ofBytes _), length_feedbackEncrypt]

/-- What is no text of bytes is refused in both directions, for the same reason. -/
theorem encryptWith_eq_error_iff {cipher : BlockCipher} {key : CipherKey} {payload : Payload}
    {error : PayloadError} :
    encryptWith cipher key payload = .error error ↔ decryptWith cipher key payload = .error error :=
  map_eq_error_iff.trans map_eq_error_iff.symm

theorem exists_encryptWith_iff {cipher : BlockCipher} {key : CipherKey} {payload : Payload} :
    (∃ ciphertext, encryptWith cipher key payload = .ok ciphertext) ↔
      ∃ plain, decryptWith cipher key payload = .ok plain := by
  simp only [encryptWith, decryptWith, map_eq_ok_iff]
  constructor
  · rintro ⟨_, content, read, _⟩
    exact ⟨_, content, read, rfl⟩
  · rintro ⟨_, content, read, _⟩
    exact ⟨_, content, read, rfl⟩

/-- A ciphertext has no characters but the digits that are written. -/
theorem isLowerDigit_of_encryptWith {cipher : BlockCipher} {key : CipherKey}
    {payload ciphertext : Payload} (encrypted : encryptWith cipher key payload = .ok ciphertext) :
    ∀ c ∈ ciphertext.text.toList, Hex.isLowerDigit c = true := by
  obtain ⟨plain, _, rfl⟩ := map_eq_ok_iff.mp encrypted
  intro c member
  rw [ofBytes, String.toList_ofList] at member
  exact Hex.isLowerDigit_of_mem_encode member

end MeterUplink.Payload
