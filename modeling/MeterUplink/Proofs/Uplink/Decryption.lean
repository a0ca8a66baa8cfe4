import MeterUplink.Proofs.Uplink.WireRoundTrip

namespace MeterUplink.Uplink

/-! Encryption as the two ends of the line see it: whoever has the key gets the payload back from
the chunks of an uplink, in lower case. -/

open Cipher

theorem decryptWith_of_cut {cipher : BlockCipher} {key : CipherKey} {payload ciphertext : Payload}
    {length : Nat} {chunks : Chunks} (encrypted : payload.encryptWith cipher key = .ok ciphertext)
    (cut : ciphertext.cut length = .ok chunks) :
    Payload.decryptWith cipher key ⟨chunks.concat⟩ = .ok ⟨payload.text.map Char.toLower⟩ := by
  rw [Payload.concat_of_cut cut]
  exact Payload.decryptWith_of_encryptWith encrypted

theorem decrypt_of_prepare {holder : Holder} {log : String} {uplink : Uplink} {key : CipherKey}
    (keyed : holder.cipherKey = some key) (prepared : (prepare holder log).outcome = .ok uplink) :
    Payload.decrypt key ⟨uplink.chunks.concat⟩ = .ok ⟨uplink.payload.text.map Char.toLower⟩ := by
  obtain ⟨_, _, _, cut⟩ := prepare_eq_ok_iff.mp prepared
  obtain ⟨ciphertext, turned, done⟩ := exists_ciphertext keyed prepared
  rw [turned] at cut
  exact decryptWith_of_cut done cut

/-- Under any block cipher, encryption and decryption take the same payloads and refuse the others
for the same reason; each undoes the other up to the case of the digits, over the chunks too. -/
theorem encryption_round_trip (cipher : BlockCipher) (key : CipherKey) (payload : Payload) :
    ((∃ ciphertext, payload.encryptWith cipher key = .ok ciphertext) ↔
      ∃ plain, payload.decryptWith cipher key = .ok plain) ∧
    (∀ error, payload.encryptWith cipher key = .error error ↔
      payload.decryptWith cipher key = .error error) ∧
    (∀ ciphertext, payload.encryptWith cipher key = .ok ciphertext →
      (∀ c ∈ ciphertext.text.toList, Hex.isLowerDigit c = true) ∧
      ciphertext.length = payload.length ∧
      ciphertext.decryptWith cipher key = .ok ⟨payload.text.map Char.toLower⟩ ∧
      ∀ length chunks, ciphertext.cut length = .ok chunks →
        Payload.decryptWith cipher key ⟨chunks.concat⟩ = .ok ⟨payload.text.map Char.toLower⟩) ∧
    (∀ plain, payload.decryptWith cipher key = .ok plain →
      plain.encryptWith cipher key = .ok ⟨payload.text.map Char.toLower⟩) ∧
    (∀ holder log uplink, holder.cipherKey = some key →
      (prepare holder log).outcome = .ok uplink →
        Payload.decrypt key ⟨uplink.chunks.concat⟩ =
          .ok ⟨uplink.payload.text.map Char.toLower⟩) := by
  refine ⟨Payload.exists_encryptWith_iff, fun error => Payload.encryptWith_eq_error_iff, ?_,
    fun plain => Payload.encryptWith_of_decryptWith, fun holder log uplink => decrypt_of_prepare⟩
  intro ciphertext encrypted
  exact ⟨Payload.isLowerDigit_of_encryptWith encrypted, Payload.length_of_encryptWith encrypted,
    Payload.decryptWith_of_encryptWith encrypted,
    fun length chunks => decryptWith_of_cut encrypted⟩

/-- A log with one line for every standard register. -/
def standardLog (time : String) : String :=
  String.ofList (RegisterTable.standardDefinitions.flatMap fun definition =>
    definition.marker.toList ++
      if definition.register = .timestamp then ",,".toList ++ time.toList ++ ",,\n".toList
      else ",,17,,3\n".toList)

def sampleKey : CipherKey := ⟨.replicate 16 0x2B, .replicate 16 0x07⟩

def keyedHolder : Holder := ⟨{}, "", .standard, some sampleKey⟩

/-- Settings that ask for the sample key. -/
def keyedSettings : Settings :=
  { payload := { encryption :=
      ⟨true, "2B2B2B2B2B2B2B2B2B2B2B2B2B2B2B2B", " 07070707070707070707070707070707\n"⟩ } }

theorem ofSettings_keyedSettings : (Holder.ofSettings keyedSettings).outcome =
    .ok ⟨keyedSettings, "", .standard, some sampleKey⟩ := by
  have keyed : keyedSettings.payload.encryption.cipherKey = .ok (some sampleKey) := by
    decide +kernel
  exact Holder.ofSettings_eq_ok_iff.mpr
    ⟨by decide, .standard, _, RegisterTable.ofDefinitions?_standard, keyed, rfl⟩

theorem exists_encode_standardLog :
    ∃ readings, (ReadingSet.ofText .standard (standardLog "1D:20")).outcome = .ok readings ∧
      (readings.encode {}).outcome = .ok ⟨"1D20113113113113113113113113113113113113"⟩ := by
  have coded : ((ReadingSet.ofText .standard (standardLog "1D:20")).mapError .extract >>=
      fun readings => (readings.encode {}).mapError UplinkError.payload).outcome =
        .ok ⟨"1D20113113113113113113113113113113113113"⟩ := by
    rw [ReadingSet.ofText, standardLog, String.toList_ofList]
    decide +kernel
  obtain ⟨readings, extracted, encoded⟩ := Journaled.outcome_bind_eq_ok_iff.mp coded
  exact ⟨readings, Journaled.outcome_mapError_eq_ok_iff.mp extracted,
    Journaled.outcome_mapError_eq_ok_iff.mp encoded⟩

theorem exists_encryptIfKeyed_sampleKey : ∃ ciphertext, encryptIfKeyed (some sampleKey)
    ⟨"1D20113113113113113113113113113113113113"⟩ = .ok ciphertext := by
  have read : Payload.bytes ⟨"1D20113113113113113113113113113113113113"⟩ =
      .ok ([0x1D, 0x20] ++ (List.replicate 6 [0x11, 0x31, 0x13]).flatten) := by decide +kernel
  exact ⟨_, congrArg (·.map some) (Payload.encryptWith_of_bytes Aes128.encipher sampleKey read)⟩

theorem exists_prepare_keyedHolder :
    ∃ uplink, (prepare keyedHolder (standardLog "1D:20")).outcome = .ok uplink ∧
      uplink.payload = ⟨"1D20113113113113113113113113113113113113"⟩ := by
  obtain ⟨readings, extracted, encoded⟩ := exists_encode_standardLog
  obtain ⟨ciphertext, encrypted⟩ := exists_encryptIfKeyed_sampleKey
  exact exists_prepare extracted encoded encrypted (by decide)

theorem encryption_round_trip_standardLog :
    (∃ ciphertext, Payload.encrypt sampleKey ⟨"4fE0"⟩ = .ok ciphertext ∧
      ciphertext.length = 4 ∧ ciphertext.decrypt sampleKey = .ok ⟨"4fe0"⟩) ∧
    ∃ uplink, (prepare keyedHolder (standardLog "1D:20")).outcome = .ok uplink ∧
      Payload.decrypt sampleKey ⟨uplink.chunks.concat⟩ =
        .ok ⟨"1d20113113113113113113113113113113113113"⟩ := by
  have ⟨_, _, encrypts, _, delivers⟩ :=
    encryption_round_trip Aes128.encipher sampleKey ⟨"4fE0"⟩
  constructor
  · have read : Payload.bytes ⟨"4fE0"⟩ = .ok [0x4F, 0xE0] := by decide +kernel
    have lowered : "4fE0".map Char.toLower = "4fe0" := by decide +kernel
    have encrypted := Payload.encryptWith_of_bytes Aes128.encipher sampleKey read
    obtain ⟨_, length, decrypted, _⟩ := encrypts _ encrypted
    rw [lowered] at decrypted
    exact ⟨_, encrypted, length, decrypted⟩
  · have lowered : "1D20113113113113113113113113113113113113".map Char.toLower =
        "1d20113113113113113113113113113113113113" := by decide +kernel
    obtain ⟨uplink, prepared, payload⟩ := exists_prepare_keyedHolder
    have delivered := delivers _ _ uplink rfl prepared
    rw [payload, lowered] at delivered
    exact ⟨uplink, prepared, delivered⟩

end MeterUplink.Uplink
