import MeterUplink.Proofs.Numeral.HexDigits
import MeterUplink.Proofs.Uplink.Decryption

namespace MeterUplink

/-! Which payloads can be encrypted. Of those that readings are encoded as it depends on the time
alone, and on how many digits there are. -/

namespace Payload

open Cipher

variable {payload : Payload}

theorem exists_bytes_iff : (∃ content, payload.bytes = .ok content) ↔
    payload.length % 2 = 0 ∧ ∀ c ∈ payload.text.toList, Hex.isDigit c = true := by
  rw [bytes]
  split
  case isTrue odd =>
    constructor
    · rintro ⟨_, read⟩
      cases read
    · rintro ⟨even, _⟩
      omega
  case isFalse even =>
    rw [length, ← Hex.exists_decode_iff]
    simp only [mapError_eq_ok_iff]

theorem bytes_eq_oddLength_iff {count : Nat} : payload.bytes = .error (.oddLength count) ↔
    payload.length = count ∧ count % 2 = 1 := by
  rw [bytes]
  split
  case isTrue odd =>
    constructor
    · intro failed
      cases failed
      exact ⟨rfl, odd⟩
    · rintro ⟨rfl, _⟩
      rfl
  case isFalse even =>
    constructor
    · intro failed
      obtain ⟨_, _, other⟩ := mapError_eq_error_iff.mp failed
      cases other
    · rintro ⟨rfl, odd⟩
      exact absurd odd even

theorem bytes_cases (even : payload.length % 2 = 0) :
    (∃ content, payload.bytes = .ok content) ∨ ∃ fault, payload.bytes = .error (.invalidHex fault) := by
  have notOdd : ¬ payload.length % 2 = 1 := by omega
  rw [bytes, if_neg notOdd]
  cases Hex.decode payload.text with
  | ok content => exact .inl ⟨content, rfl⟩
  | error fault => exact .inr ⟨fault, rfl⟩

theorem exists_bytes_eq_invalidHex_iff (even : payload.length % 2 = 0) :
    (∃ fault, payload.bytes = .error (.invalidHex fault)) ↔
      ∃ c ∈ payload.text.toList, Hex.isDigit c = false := by
  constructor
  · rintro ⟨fault, failed⟩
    refine Classical.byContradiction fun none => ?_
    have digits (c : Char) (member : c ∈ payload.text.toList) : Hex.isDigit c = true :=
      (Bool.not_eq_false _).mp fun other => none ⟨c, member, other⟩
    obtain ⟨content, succeeded⟩ := exists_bytes_iff.mpr ⟨even, digits⟩
    rw [succeeded] at failed
    cases failed
  · rintro ⟨c, member, other⟩
    refine (bytes_cases even).resolve_left fun succeeded => ?_
    rw [(exists_bytes_iff.mp succeeded).2 c member] at other
    cases other

theorem bytes_of_odd_utf8 (even : payload.length % 2 = 0)
    (odd : (Text.utf8Bytes payload.text).length % 2 = 1) :
    payload.bytes = .error (.invalidHex .oddLength) := by
  have notOdd : ¬ payload.length % 2 = 1 := by omega
  simp only [bytes, notOdd, Hex.decode, odd, if_false, if_true]
  rfl

theorem encryptWith_eq_error_iff_bytes {cipher : BlockCipher} {key : CipherKey}
    {error : PayloadError} :
    encryptWith cipher key payload = .error error ↔ payload.bytes = .error error :=
  map_eq_error_iff

theorem exists_encryptWith_iff_digits {cipher : BlockCipher} {key : CipherKey} :
    (∃ ciphertext, encryptWith cipher key payload = .ok ciphertext) ↔
      payload.length % 2 = 0 ∧ ∀ c ∈ payload.text.toList, Hex.isDigit c = true := by
  rw [← exists_bytes_iff]
  constructor
  · rintro ⟨_, encrypted⟩
    obtain ⟨content, read, _⟩ := map_eq_ok_iff.mp encrypted
    exact ⟨content, read⟩
  · rintro ⟨content, read⟩
    exact ⟨_, encryptWith_of_bytes cipher key read⟩

end Payload

namespace Uplink

open Cipher

variable {holder : Holder} {log : String} {readings : ReadingSet} {payload : Payload}

theorem exists_prepare_iff_encrypt {key : CipherKey} (keyed : holder.cipherKey = some key)
    (positive : 1 ≤ holder.settings.payload.chunkLength.toNat)
    (extracted : (ReadingSet.ofText holder.table log).outcome = .ok readings)
    (encoded : (readings.encode holder.settings.payload).outcome = .ok payload) :
    (∃ uplink, (prepare holder log).outcome = .ok uplink) ↔
      ∃ ciphertext, payload.encrypt key = .ok ciphertext := by
  constructor
  · rintro ⟨uplink, prepared⟩
    obtain ⟨sameReadings, samePayload, _⟩ := prepare_eq_ok_iff.mp prepared
    obtain ⟨ciphertext, _, done⟩ := exists_ciphertext keyed prepared
    obtain rfl := Except.ok.inj (extracted.symm.trans sameReadings)
    obtain rfl := Except.ok.inj (encoded.symm.trans samePayload)
    exact ⟨ciphertext, done⟩
  · rintro ⟨ciphertext, done⟩
    have encrypted : encryptIfKeyed holder.cipherKey payload = .ok (some ciphertext) := by
      rw [keyed, encryptIfKeyed_some]
      exact map_eq_ok_iff.mpr ⟨ciphertext, done, rfl⟩
    obtain ⟨uplink, prepared, _⟩ := exists_prepare extracted encoded encrypted (by omega)
    exact ⟨uplink, prepared⟩

/-- A payload is encrypted, under any block cipher, exactly if it consists of an even number of
digits in either case. The number is looked at first, and counts characters; bytes are counted only
after that. An encrypted uplink fails at this point for its time or for its length only. -/
theorem encryption_possible (cipher : BlockCipher) (key : CipherKey) (payload : Payload) :
    (∀ count, payload.encryptWith cipher key = .error (.oddLength count) ↔
      payload.length = count ∧ count % 2 = 1) ∧
    (payload.length % 2 = 0 →
      ((∃ fault, payload.encryptWith cipher key = .error (.invalidHex fault)) ↔
        ∃ c ∈ payload.text.toList, Hex.isDigit c = false) ∧
      ((Text.utf8Bytes payload.text).length % 2 = 1 →
        payload.encryptWith cipher key = .error (.invalidHex .oddLength)) ∧
      ((∀ c ∈ payload.text.toList, Hex.isDigit c = true) →
        ∃ ciphertext, payload.encryptWith cipher key = .ok ciphertext)) ∧
    ∀ holder log readings sent, holder.cipherKey = some key →
      1 ≤ holder.settings.payload.chunkLength.toNat →
      (ReadingSet.ofText holder.table log).outcome = .ok readings →
      (readings.encode holder.settings.payload).outcome = .ok sent →
      ((∃ uplink, (prepare holder log).outcome = .ok uplink) ↔
        sent.length % 2 = 0 ∧
          ∀ c ∈ (normalizeTimestamp readings.timestamp
            holder.settings.payload.timestampSeparators
            holder.settings.payload.timestampTruncate.toNat).toList, Hex.isDigit c = true) := by
  simp only [Payload.encryptWith_eq_error_iff_bytes]
  refine ⟨fun count => Payload.bytes_eq_oddLength_iff, fun even => ⟨?_, ?_, ?_⟩, ?_⟩
  · exact Payload.exists_bytes_eq_invalidHex_iff even
  · exact Payload.bytes_of_odd_utf8 even
  · exact fun digits => Payload.exists_encryptWith_iff_digits.mpr ⟨even, digits⟩
  · intro holder log readings sent keyed positive extracted encoded
    rw [exists_prepare_iff_encrypt keyed positive extracted encoded,
      ← ReadingSet.forall_mem_encode_iff encoded fun _ => Hex.isDigit_of_isLowerDigit]
    exact Payload.exists_encryptWith_iff_digits

/-- Two characters in three bytes, a letter that is no digit, and an uplink that is encrypted. -/
theorem encryption_possible_standardLog :
    Payload.encrypt sampleKey ⟨"1D2"⟩ = .error (.oddLength 3) ∧
    Payload.encrypt sampleKey ⟨"1é"⟩ = .error (.invalidHex .oddLength) ∧
    (∃ fault, Payload.encrypt sampleKey ⟨"1G"⟩ = .error (.invalidHex fault)) ∧
    (∃ ciphertext, Payload.encrypt sampleKey ⟨"1d"⟩ = .ok ciphertext) ∧
    ∃ uplink, (prepare keyedHolder (standardLog "1D:20")).outcome = .ok uplink := by
  have counted := (encryption_possible Aes128.encipher sampleKey ⟨"1D2"⟩).1
  have accented := (encryption_possible Aes128.encipher sampleKey ⟨"1é"⟩).2.1 (by decide)
  have lettered := (encryption_possible Aes128.encipher sampleKey ⟨"1G"⟩).2.1 (by decide)
  have ⟨_, digits, uplinks⟩ := encryption_possible Aes128.encipher sampleKey ⟨"1d"⟩
  obtain ⟨readings, extracted, encoded⟩ := exists_encode_standardLog
  refine ⟨(counted 3).mpr (by decide), accented.2.1 (by decide), ?_, ?_, ?_⟩
  · exact lettered.1.mpr ⟨'G', by decide, by decide⟩
  · exact (digits (by decide)).2.2 (List.all_eq_true.mp (by decide +kernel))
  · have possible := uplinks keyedHolder _ _ _ rfl (by decide) extracted encoded
    have time := (ReadingSet.forall_mem_encode_iff encoded fun _ =>
      Hex.isDigit_of_isLowerDigit).mp (List.all_eq_true.mp (by decide +kernel))
    exact possible.mpr ⟨by decide +kernel, time⟩

end Uplink

end MeterUplink
