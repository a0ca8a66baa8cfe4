import MeterUplink.Uplink
import MeterUplink.Proofs.Payload.Chunks

namespace MeterUplink.Uplink

/-! The stages of an uplink, each from the result of the one before. -/

theorem prepare_eq_ok_iff {holder : Holder} {log : String} {uplink : Uplink} :
    (prepare holder log).outcome = .ok uplink ↔
      (ReadingSet.ofText holder.table log).outcome = .ok uplink.readings ∧
      (uplink.readings.encode holder.settings.payload).outcome = .ok uplink.payload ∧
      encryptIfKeyed holder.cipherKey uplink.payload = .ok uplink.ciphertext ∧
      (uplink.ciphertext.getD uplink.payload).cut holder.settings.payload.chunkLength.toNat =
        .ok uplink.chunks := by
  constructor
  · intro prepared
    obtain ⟨readings, extracted, prepared⟩ := Journaled.outcome_bind_eq_ok_iff.mp prepared
    obtain ⟨payload, encoded, prepared⟩ := Journaled.outcome_bind_eq_ok_iff.mp prepared
    obtain ⟨_, _, prepared⟩ := Journaled.outcome_bind_eq_ok_iff.mp prepared
    obtain ⟨ciphertext, encrypted, prepared⟩ := Journaled.outcome_bind_eq_ok_iff.mp prepared
    obtain ⟨chunks, cut, prepared⟩ := Journaled.outcome_bind_eq_ok_iff.mp prepared
    have parted := Journaled.outcome_mapError_eq_ok_iff.mp cut
    rw [Payload.outcome_chunks] at parted
    cases prepared
    exact ⟨Journaled.outcome_mapError_eq_ok_iff.mp extracted,
      Journaled.outcome_mapError_eq_ok_iff.mp encoded, mapError_eq_ok_iff.mp encrypted, parted⟩
  · rintro ⟨extracted, encoded, encrypted, cut⟩
    rw [← Payload.outcome_chunks] at cut
    refine Journaled.outcome_bind_eq_ok_iff.mpr
      ⟨_, Journaled.outcome_mapError_eq_ok_iff.mpr extracted, ?_⟩
    refine Journaled.outcome_bind_eq_ok_iff.mpr
      ⟨_, Journaled.outcome_mapError_eq_ok_iff.mpr encoded, ?_⟩
    refine Journaled.outcome_bind_eq_ok_iff.mpr ⟨(), rfl, ?_⟩
    refine Journaled.outcome_bind_eq_ok_iff.mpr ⟨_, mapError_eq_ok_iff.mpr encrypted, ?_⟩
    exact Journaled.outcome_bind_eq_ok_iff.mpr
      ⟨_, Journaled.outcome_mapError_eq_ok_iff.mpr cut, rfl⟩

/-- Once there is a payload to send, no stage is left that fails but for a chunk length of zero. -/
theorem exists_prepare {holder : Holder} {log : String} {readings : ReadingSet}
    {payload : Payload} {ciphertext : Option Payload}
    (extracted : (ReadingSet.ofText holder.table log).outcome = .ok readings)
    (encoded : (readings.encode holder.settings.payload).outcome = .ok payload)
    (encrypted : encryptIfKeyed holder.cipherKey payload = .ok ciphertext)
    (positive : holder.settings.payload.chunkLength.toNat ≠ 0) :
    ∃ uplink, (prepare holder log).outcome = .ok uplink ∧ uplink.payload = payload := by
  obtain ⟨chunks, cut⟩ := (ciphertext.getD payload).exists_cut positive
  exact ⟨⟨readings, payload, ciphertext, chunks⟩,
    prepare_eq_ok_iff.mpr ⟨extracted, encoded, encrypted, cut⟩, rfl⟩

end MeterUplink.Uplink
