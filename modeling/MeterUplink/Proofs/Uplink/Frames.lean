import MeterUplink.Proofs.Payload.Length
import MeterUplink.Proofs.Uplink.Decryption

namespace MeterUplink.Uplink

/-! The frames of an uplink. Encryption keeps the length of a payload, so the length decides how
many frames there are; and no payload is empty, so there is always something to send. -/

theorem length_of_encryptIfKeyed {cipherKey : Option Cipher.CipherKey} {payload : Payload}
    {ciphertext : Option Payload} (encrypted : encryptIfKeyed cipherKey payload = .ok ciphertext) :
    (ciphertext.getD payload).length = payload.length := by
  cases cipherKey with
  | none =>
      cases encrypted
      rfl
  | some key =>
      obtain ⟨turned, done, rfl⟩ := map_eq_ok_iff.mp encrypted
      exact Payload.length_of_encryptWith done

variable {holder : Holder} {log : String} {uplink : Uplink}

theorem length_sentPayload (prepared : (prepare holder log).outcome = .ok uplink) :
    uplink.sentPayload.length = uplink.payload.length :=
  have ⟨_, _, encrypted, _⟩ := prepare_eq_ok_iff.mp prepared
  length_of_encryptIfKeyed encrypted

/-- Under any settings, checked or not, an uplink has a frame. -/
theorem texts_chunks_ne_nil (prepared : (prepare holder log).outcome = .ok uplink) :
    uplink.chunks.texts ≠ [] := by
  obtain ⟨_, encoded, _, cut⟩ := prepare_eq_ok_iff.mp prepared
  refine Payload.texts_ne_nil_of_cut cut fun empty => ?_
  have long := ReadingSet.le_length_of_encode encoded
  rw [← length_sentPayload prepared, Payload.length, sentPayload, empty] at long
  exact absurd long (by simp)

theorem count_chunks (prepared : (prepare holder log).outcome = .ok uplink) :
    uplink.chunks.count =
      uplink.payload.length ⌈/⌉ holder.settings.payload.chunkLength.toNat := by
  obtain ⟨_, _, _, cut⟩ := prepare_eq_ok_iff.mp prepared
  rw [Payload.count_of_cut cut]
  exact congrArg (· ⌈/⌉ _) (length_sentPayload prepared)

/-- The length of a payload lies between two characters for each register and what the widths allow,
on top of the timestamp; the lower bound holds under any widths. The length over that of a chunk,
rounded up, is the number of frames, encrypted or not. -/
theorem frame_count_bounds :
    (∀ (readings : ReadingSet) (settings : PayloadSettings) (payload : Payload),
      (readings.encode settings).outcome = .ok payload →
        readings.timeLength settings + 24 ≤ payload.length ∧
        (settings.maskWidths.Positive → payload.length ≤ readings.mostLength settings)) ∧
    ∀ (holder : Holder) (log : String) (uplink : Uplink),
      (prepare holder log).outcome = .ok uplink →
        uplink.chunks.count =
          uplink.payload.length ⌈/⌉ holder.settings.payload.chunkLength.toNat ∧
        1 ≤ uplink.chunks.count ∧
        (holder.settings.payload.maskWidths.Positive →
          uplink.chunks.count ≤ uplink.readings.mostLength holder.settings.payload ⌈/⌉
            holder.settings.payload.chunkLength.toNat) := by
  constructor
  · intro readings settings payload encoded
    exact ⟨ReadingSet.le_length_of_encode encoded,
      fun positive => ReadingSet.length_le_of_encode positive encoded⟩
  · intro holder log uplink prepared
    refine ⟨count_chunks prepared, List.length_pos_iff.mpr (texts_chunks_ne_nil prepared),
      fun positive => ?_⟩
    obtain ⟨_, encoded, _, cut⟩ := prepare_eq_ok_iff.mp prepared
    have long := ReadingSet.length_le_of_encode positive encoded
    rw [count_chunks prepared, ceilDiv_le_iff_le_mul (Payload.pos_of_cut cut)]
    exact long.trans ((ceilDiv_le_iff_le_mul (Payload.pos_of_cut cut)).mp le_rfl)

/-- Both bounds are attained, by zeros and by numbers that are negative; and an encrypted uplink. -/
theorem frame_count_bounds_attained :
    let constant (n : Signed128) : ReadingSet := ⟨"17", ⟨fun _ => some ⟨n, n⟩⟩, ∅⟩
    let negative := constant ⟨BitVec.allOnes 128⟩
    (∃ payload, ((constant ⟨0⟩).encode {}).outcome = .ok payload ∧ payload.length = 26) ∧
    (∃ payload, (negative.encode {}).outcome = .ok payload ∧
      payload.length = negative.mostLength {} ∧ negative.mostLength {} = 90) ∧
    ∃ uplink, (prepare keyedHolder (standardLog "1D:20")).outcome = .ok uplink ∧
      uplink.chunks.count = 2 := by
  intro constant negative
  obtain ⟨lengths, counts⟩ := frame_count_bounds
  have zeros : ((constant ⟨0⟩).encode {}).outcome = .ok ⟨"17000000000000000000000000"⟩ := by
    decide +kernel
  have ones : (negative.encode {}).outcome = .ok ⟨"17ffffffffffffffffffffffffffffffff" ++
      "ffffffffffffffffffffffffffffffffffffffffffffffffffffffff"⟩ := by
    decide +kernel
  have time : (constant ⟨0⟩).timeLength {} = 2 := by decide +kernel
  have attained : negative.mostLength {} = 90 := by decide +kernel
  obtain ⟨least, _⟩ := lengths _ _ _ zeros
  obtain ⟨_, most⟩ := lengths _ _ _ ones
  rw [time] at least
  refine ⟨⟨_, zeros, le_antisymm (by decide +kernel) least⟩, ⟨_, ones, ?_, attained⟩, ?_⟩
  · apply le_antisymm (most ⟨by decide, by decide, by decide⟩)
    rw [attained]
    decide +kernel
  · obtain ⟨uplink, prepared, payload⟩ := exists_prepare_keyedHolder
    obtain ⟨count, _⟩ := counts _ _ _ prepared
    rw [payload] at count
    exact ⟨uplink, prepared, count.trans (by decide +kernel)⟩

end MeterUplink.Uplink
