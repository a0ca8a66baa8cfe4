import MeterUplink.Proofs.Journal.Alike
import MeterUplink.Proofs.Uplink.Decryption
import MeterUplink.Run

namespace MeterUplink

/-! What the journal and the course of the program tell of a key: nothing. Under two keys the same
settings and the same log lead to the same records and the same error, or to uplinks that differ in
the characters of the ciphertext alone. -/

open Cipher

theorem map_length_piecesOf {α : Type} (size : Nat) {first second : List α}
    (same : first.length = second.length) :
    (piecesOf size first).map List.length = (piecesOf size second).map List.length := by
  fun_induction piecesOf size first generalizing second with
  | case1 =>
      rw [List.length_eq_zero_iff.mp same.symm]
      simp [piecesOf]
  | case2 head rest ih =>
      cases second with
      | nil => cases same
      | cons other later =>
          have tails : rest.length = later.length := Nat.succ.inj same
          have dropped : (rest.drop size).length = (later.drop size).length := by
            rw [List.length_drop, List.length_drop, tails]
          rw [piecesOf, List.map_cons, List.map_cons, ih dropped]
          simp only [List.length_cons, List.length_take, tails]

theorem encodeReadings_withEncryption (settings : PayloadSettings)
    (encryption : EncryptionSettings) (readings : ByRegister Reading)
    (registers : List Register) :
    encodeReadings { settings with encryption } readings registers =
      encodeReadings settings readings registers := by
  induction registers with
  | nil => rfl
  | cons register rest ih =>
      rw [encodeReadings, ih]
      rfl

theorem ReadingSet.encode_withEncryption (readings : ReadingSet) (settings : PayloadSettings)
    (encryption : EncryptionSettings) :
    readings.encode { settings with encryption } = readings.encode settings := by
  rw [ReadingSet.encode, encodeReadings_withEncryption]
  rfl

/-- Chunks whose texts have the same lengths, one by one. -/
def Chunks.SameLengths (first second : Chunks) : Prop :=
  first.texts.map String.length = second.texts.map String.length

namespace Payload

/-- Payloads of one length are refused together, or are cut into chunks of the same lengths. -/
theorem alike_cut {first second : Payload} (same : first.length = second.length) (length : Nat) :
    Journaled.Alike Chunks.SameLengths (.ofExcept (first.cut length))
      (.ofExcept (second.cut length)) := by
  cases length with
  | zero => exact .failed
  | succ size =>
      have characters : first.text.toList.length = second.text.toList.length := by
        rw [String.length_toList, String.length_toList]
        exact same
      have pieces := map_length_piecesOf size characters
      refine .succeeded ?_
      simpa [Chunks.SameLengths, List.map_map, Function.comp_def] using pieces

theorem alike_chunks {first second : Payload} (same : first.length = second.length)
    (length : Nat) :
    Journaled.Alike Chunks.SameLengths (first.chunks length) (second.chunks length) := by
  refine .bind (alike_cut same length) fun chunks other lengths => ?_
  have count := congrArg List.length lengths
  rw [List.length_map, List.length_map] at count
  rw [same, Chunks.count, Chunks.count, count]
  exact .bind_same _ fun _ => .pure lengths

end Payload

/-- The settings with other key material. -/
def Settings.withKey (settings : Settings) (key iv : String) : Settings :=
  { settings with
    payload := { settings.payload with
      encryption := { settings.payload.encryption with key, iv } } }

namespace Holder

/-- Holders that differ in their keys at most. -/
structure KeyedAlike (first second : Holder) : Prop where
  table : second.table = first.table
  payload : ∃ encryption, second.settings.payload = { first.settings.payload with encryption }
  keyed : ∃ key, first.cipherKey = some key
  otherKeyed : ∃ key, second.cipherKey = some key

theorem cipherKey_withKey {settings : Settings}
    (enabled : settings.payload.encryption.enabled = true) {key iv : String}
    {cipherKey : CipherKey} (valid : CipherKey.ofHex key iv = .ok cipherKey) :
    (settings.withKey key iv).payload.encryption.cipherKey = .ok (some cipherKey) := by
  rw [EncryptionSettings.cipherKey]
  simp only [Settings.withKey, enabled, if_true, valid, Except.map]

theorem alike_ofSettings {settings : Settings}
    (enabled : settings.payload.encryption.enabled = true) {key iv otherKey otherIv : String}
    {cipherKey otherCipherKey : CipherKey} (valid : CipherKey.ofHex key iv = .ok cipherKey)
    (otherValid : CipherKey.ofHex otherKey otherIv = .ok otherCipherKey) :
    Journaled.Alike KeyedAlike (ofSettings (settings.withKey key iv))
      (ofSettings (settings.withKey otherKey otherIv)) := by
  have keys : Journaled.Alike
      (fun first second => (∃ key, first = some key) ∧ ∃ key, second = some key)
      (.ofExcept (settings.withKey key iv).payload.encryption.cipherKey)
      (.ofExcept (settings.withKey otherKey otherIv).payload.encryption.cipherKey) := by
    rw [cipherKey_withKey enabled valid, cipherKey_withKey enabled otherValid]
    exact .succeeded ⟨⟨_, rfl⟩, ⟨_, rfl⟩⟩
  refine .bind_same _ fun _ => .bind_same _ fun table => .bind (keys.mapError _) ?_
  rintro _ _ ⟨⟨first, rfl⟩, second, rfl⟩
  exact .bind_same _ fun _ => .pure ⟨rfl, ⟨_, rfl⟩, ⟨_, rfl⟩, ⟨_, rfl⟩⟩

end Holder

namespace Uplink

/-- Uplinks of the same readings and the same payload, whose ciphertexts and chunks differ in
their characters at most. -/
structure SameShape (first second : Uplink) : Prop where
  readings : first.readings = second.readings
  payload : first.payload = second.payload
  ciphertexts : ∃ ciphertext other, first.ciphertext = some ciphertext ∧
    second.ciphertext = some other ∧ ciphertext.length = other.length
  chunks : first.chunks.SameLengths second.chunks

/-- Encryption is refused for a reason that the payload alone gives. -/
theorem alike_encryptIfKeyed (key otherKey : CipherKey) (payload : Payload) :
    Journaled.Alike (fun first second => ∃ ciphertext other, first = some ciphertext ∧
        second = some other ∧ ciphertext.length = other.length)
      (.ofExcept (encryptIfKeyed (some key) payload))
      (.ofExcept (encryptIfKeyed (some otherKey) payload)) := by
  rw [encryptIfKeyed_some, encryptIfKeyed_some, Payload.encrypt, Payload.encrypt]
  cases read : payload.bytes with
  | error error =>
      have refused (key : CipherKey) : payload.encryptWith Aes128.encipher key = .error error :=
        map_eq_error_iff.mpr read
      rw [refused, refused]
      exact .failed
  | ok content =>
      have done := Payload.encryptWith_of_bytes Aes128.encipher key read
      have otherDone := Payload.encryptWith_of_bytes Aes128.encipher otherKey read
      rw [done, otherDone]
      exact .succeeded ⟨_, _, rfl, rfl, (Payload.length_of_encryptWith done).trans
        (Payload.length_of_encryptWith otherDone).symm⟩

theorem alike_prepare {first second : Holder} (alike : first.KeyedAlike second) (log : String) :
    Journaled.Alike SameShape (prepare first log) (prepare second log) := by
  obtain ⟨encryption, payload⟩ := alike.payload
  obtain ⟨key, keyed⟩ := alike.keyed
  obtain ⟨otherKey, otherKeyed⟩ := alike.otherKeyed
  rw [prepare, prepare, alike.table, payload, keyed, otherKeyed]
  refine .bind_same _ fun readings => ?_
  rw [ReadingSet.encode_withEncryption]
  refine .bind_same _ fun payload => .bind_same _ fun _ => ?_
  refine .bind ((alike_encryptIfKeyed key otherKey payload).mapError _) ?_
  rintro _ _ ⟨ciphertext, other, rfl, rfl, lengths⟩
  refine .bind ((Payload.alike_chunks lengths _).mapError _) fun chunks others pieces => ?_
  exact .pure ⟨rfl, rfl, ⟨ciphertext, other, rfl, rfl, lengths⟩, pieces⟩

/-- Settings are accepted, and an uplink is prepared from a log. -/
def ofSettings (settings : Settings) (log : String) : Journaled RunError Uplink := do
  let holder ← (Holder.ofSettings settings).mapError .settings
  (prepare holder log).mapError .uplink

/-- Two keys in the same settings lead to the same journal, and to the same error or to uplinks of
one shape. -/
theorem alike_ofSettings_withKey (settings : Settings)
    (enabled : settings.payload.encryption.enabled = true) {key iv otherKey otherIv : String}
    {cipherKey otherCipherKey : CipherKey} (valid : CipherKey.ofHex key iv = .ok cipherKey)
    (otherValid : CipherKey.ofHex otherKey otherIv = .ok otherCipherKey) (log : String) :
    Journaled.Alike SameShape (ofSettings (settings.withKey key iv) log)
      (ofSettings (settings.withKey otherKey otherIv) log) :=
  .bind (.mapError _ (Holder.alike_ofSettings enabled valid otherValid))
    fun _ _ alike => .mapError _ (alike_prepare alike log)

theorem exists_ofSettings_keyedSettings :
    ∃ uplink, (ofSettings keyedSettings (standardLog "1D:20")).outcome = .ok uplink := by
  obtain ⟨readings, extracted, encoded⟩ := exists_encode_standardLog
  obtain ⟨ciphertext, encrypted⟩ := exists_encryptIfKeyed_sampleKey
  rw [← ReadingSet.encode_withEncryption readings {} keyedSettings.payload.encryption] at encoded
  obtain ⟨uplink, prepared, _⟩ : ∃ uplink,
      (prepare ⟨keyedSettings, "", .standard, some sampleKey⟩
        (standardLog "1D:20")).outcome = .ok uplink ∧ uplink.payload = _ :=
    exists_prepare extracted encoded encrypted (by decide)
  exact ⟨uplink, Journaled.outcome_bind_eq_ok_iff.mpr
    ⟨_, Journaled.outcome_mapError_eq_ok_iff.mpr ofSettings_keyedSettings,
      Journaled.outcome_mapError_eq_ok_iff.mpr prepared⟩⟩

/-- Two keys are accepted and both uplinks prepared, with one journal between them. -/
theorem alike_ofSettings_sampleKey :
    let settings : Settings := { payload := { encryption := { enabled := true } } }
    let log := standardLog "1D:20"
    ∃ records first second, ofSettings keyedSettings log = ⟨records, .ok first⟩ ∧
      ofSettings (settings.withKey "ffffffffffffffffffffffffffffffff"
        "00000000000000000000000000000000") log = ⟨records, .ok second⟩ ∧
      SameShape first second := by
  intro settings log
  have valid : CipherKey.ofHex "2B2B2B2B2B2B2B2B2B2B2B2B2B2B2B2B"
      " 07070707070707070707070707070707\n" = .ok sampleKey := by decide +kernel
  have otherValid : CipherKey.ofHex "ffffffffffffffffffffffffffffffff"
      "00000000000000000000000000000000" = .ok ⟨.replicate 16 0xFF, .replicate 16 0⟩ := by
    decide +kernel
  have alike := alike_ofSettings_withKey settings rfl valid otherValid log
  have same : settings.withKey "2B2B2B2B2B2B2B2B2B2B2B2B2B2B2B2B"
      " 07070707070707070707070707070707\n" = keyedSettings := rfl
  rw [same] at alike
  obtain ⟨uplink, succeeded⟩ := exists_ofSettings_keyedSettings
  change (ofSettings keyedSettings log).outcome = .ok uplink at succeeded
  generalize ofSettings keyedSettings log = first at alike succeeded ⊢
  generalize ofSettings (settings.withKey _ _) log = second at alike ⊢
  cases alike with
  | failed => cases succeeded
  | succeeded ends => exact ⟨_, _, _, rfl, rfl, ends⟩

end Uplink

end MeterUplink
