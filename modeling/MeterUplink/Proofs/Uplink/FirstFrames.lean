import MeterUplink.Proofs.Payload.Prefix
import MeterUplink.Proofs.Uplink.Decryption

namespace MeterUplink.Uplink

/-! What can be read of an encrypted uplink before all of it has arrived. -/

open Cipher

theorem decryptWith_firstFrames {cipher : BlockCipher} {key : CipherKey}
    {payload ciphertext : Payload} {length : Nat} {chunks : Chunks}
    (encrypted : payload.encryptWith cipher key = .ok ciphertext)
    (cut : ciphertext.cut length = .ok chunks) (frames : Nat)
    (even : (chunks.take frames).concat.length % 2 = 0) :
    Payload.decryptWith cipher key ⟨(chunks.take frames).concat⟩ =
      .ok (Payload.take ⟨payload.text.map Char.toLower⟩ (chunks.take frames).concat.length) := by
  rw [Payload.concat_take_eq_take_length cut frames]
  exact Payload.decryptWith_take encrypted even

theorem decrypt_firstFrames {holder : Holder} {log : String} {uplink : Uplink} {key : CipherKey}
    (keyed : holder.cipherKey = some key) (prepared : (prepare holder log).outcome = .ok uplink)
    (frames : Nat) (even : (uplink.chunks.take frames).concat.length % 2 = 0) :
    Payload.decrypt key ⟨(uplink.chunks.take frames).concat⟩ =
      .ok (Payload.take ⟨uplink.payload.text.map Char.toLower⟩
        (uplink.chunks.take frames).concat.length) := by
  obtain ⟨_, _, _, cut⟩ := prepare_eq_ok_iff.mp prepared
  obtain ⟨ciphertext, turned, done⟩ := exists_ciphertext keyed prepared
  rw [turned] at cut
  exact decryptWith_firstFrames done cut frames even

/-- Under any block cipher, the first part of a payload is enciphered as the first part of the
ciphertext. So the first frames can be decrypted before the others are there, wherever the cuts
are, as soon as they have an even number of characters. -/
theorem prefix_decrypts (cipher : BlockCipher) (key : CipherKey) (payload : Payload) :
    (∀ ciphertext, payload.encryptWith cipher key = .ok ciphertext →
      (∀ count, count % 2 = 0 → count ≤ payload.length →
        (payload.take count).encryptWith cipher key = .ok (ciphertext.take count)) ∧
      ∀ length chunks frames, ciphertext.cut length = .ok chunks →
        (chunks.take frames).concat.length % 2 = 0 →
          Payload.decryptWith cipher key ⟨(chunks.take frames).concat⟩ =
            .ok (Payload.take ⟨payload.text.map Char.toLower⟩
              (chunks.take frames).concat.length)) ∧
    (∀ holder log uplink frames, holder.cipherKey = some key →
      (prepare holder log).outcome = .ok uplink →
      (uplink.chunks.take frames).concat.length % 2 = 0 →
        Payload.decrypt key ⟨(uplink.chunks.take frames).concat⟩ =
          .ok (Payload.take ⟨uplink.payload.text.map Char.toLower⟩
            (uplink.chunks.take frames).concat.length)) := by
  refine ⟨fun ciphertext encrypted => ⟨fun count even _ => ?_, ?_⟩, ?_⟩
  · exact Payload.encryptWith_take encrypted even
  · intro length chunks frames cut even
    exact decryptWith_firstFrames encrypted cut frames even
  · intro holder log uplink frames keyed prepared even
    exact decrypt_firstFrames keyed prepared frames even

/-- Two of three frames of three characters, and the first of two that an uplink consists of. -/
theorem prefix_decrypts_standardLog :
    (∃ ciphertext chunks, Payload.encrypt sampleKey ⟨"4fE01B77"⟩ = .ok ciphertext ∧
      ciphertext.cut 3 = .ok chunks ∧
      Payload.encrypt sampleKey ⟨"4fE01B"⟩ = .ok (ciphertext.take 6) ∧
      (chunks.take 2).concat.length = 6 ∧
      Payload.decrypt sampleKey ⟨(chunks.take 2).concat⟩ = .ok ⟨"4fe01b"⟩) ∧
    ∃ uplink, (prepare keyedHolder (standardLog "1D:20")).outcome = .ok uplink ∧
      Payload.decrypt sampleKey ⟨(uplink.chunks.take 1).concat⟩ =
        .ok ⟨"1d2011311311311311311311"⟩ := by
  have ⟨encrypts, delivers⟩ := prefix_decrypts Aes128.encipher sampleKey ⟨"4fE01B77"⟩
  constructor
  · have read : Payload.bytes ⟨"4fE01B77"⟩ = .ok [0x4F, 0xE0, 0x1B, 0x77] := by decide +kernel
    obtain ⟨ciphertext, encrypted⟩ : ∃ ciphertext,
        Payload.encrypt sampleKey ⟨"4fE01B77"⟩ = .ok ciphertext :=
      ⟨_, Payload.encryptWith_of_bytes Aes128.encipher sampleKey read⟩
    have positive : 3 ≠ 0 := by decide
    obtain ⟨chunks, cut⟩ := ciphertext.exists_cut positive
    obtain ⟨begins, arrives⟩ := encrypts ciphertext encrypted
    have six : (chunks.take 2).concat.length = 6 := by
      rw [Payload.length_concat_take cut, Payload.length_of_encryptWith encrypted]
      decide +kernel
    have first := begins 6 (by decide) (by decide)
    have decrypted := arrives 3 chunks 2 cut (by rw [six])
    have lowered : Payload.take ⟨"4fE01B77".map Char.toLower⟩ 6 = ⟨"4fe01b"⟩ := by decide +kernel
    rw [six, lowered] at decrypted
    exact ⟨ciphertext, chunks, encrypted, cut, first, six, decrypted⟩
  · obtain ⟨uplink, prepared, payload⟩ := exists_prepare_keyedHolder
    obtain ⟨_, _, _, cut⟩ := prepare_eq_ok_iff.mp prepared
    obtain ⟨ciphertext, turned, done⟩ := exists_ciphertext rfl prepared
    rw [turned] at cut
    have whole : (uplink.chunks.take 1).concat.length = 24 := by
      rw [Payload.length_concat_take cut]
      have length : ciphertext.length = 40 := by
        rw [Payload.length_of_encryptWith done, payload]
        decide +kernel
      rw [Option.getD_some, length]
      decide +kernel
    have delivered := delivers _ _ uplink 1 rfl prepared (by rw [whole])
    have lowered : Payload.take
        ⟨"1D20113113113113113113113113113113113113".map Char.toLower⟩ 24 =
          ⟨"1d2011311311311311311311"⟩ := by decide +kernel
    rw [whole, payload, lowered] at delivered
    exact ⟨uplink, prepared, delivered⟩

end MeterUplink.Uplink
