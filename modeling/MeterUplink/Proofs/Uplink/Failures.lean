import MeterUplink.Proofs.Holder
import MeterUplink.Proofs.Payload.Contents
import MeterUplink.Proofs.Reading.Extraction
import MeterUplink.Proofs.Uplink.Decryption

namespace MeterUplink.Uplink

/-! What an uplink can fail with, whatever was assigned to its holder since the settings were
accepted. The table is the accepted one still, so no register lacks a reading once the log is
extracted, and no key is read anew. -/

/-- The errors an uplink can fail with, each with what has to hold for it. -/
inductive Failure (holder : Holder) (log : String) : UplinkError → Prop where
  | extract {error : ExtractError}
      (refused : (ReadingSet.ofText holder.table log).outcome = .error error) :
      Failure holder log (.extract error)
  | negative {readings : ReadingSet} {register : Register} {reading : Reading}
      (extracted : (ReadingSet.ofText holder.table log).outcome = .ok readings)
      (stored : readings.readings.get? register = some reading)
      (unmasked : holder.settings.payload.masking = .unmasked)
      (negative : reading.magnitude.value < 0) :
      Failure holder log (.payload (.negativeMagnitude register reading.magnitude))
  | oddLength {key : Cipher.CipherKey} {payload : Payload} (keyed : holder.cipherKey = some key)
      (odd : payload.length % 2 = 1) : Failure holder log (.payload (.oddLength payload.length))
  | invalidHex {key : Cipher.CipherKey} {fault : Hex.Fault} (keyed : holder.cipherKey = some key) :
      Failure holder log (.payload (.invalidHex fault))
  | chunkLength (zero : holder.settings.payload.chunkLength = 0) :
      Failure holder log (.payload .invalidChunkLength)

variable {holder : Holder} {log : String}

theorem failure_of_encode (complete : holder.table.Complete) {readings : ReadingSet}
    (extracted : (ReadingSet.ofText holder.table log).outcome = .ok readings)
    {error : PayloadError}
    (failed : (readings.encode holder.settings.payload).outcome = .error error) :
    Failure holder log (.payload error) := by
  obtain ⟨register, sent, faulty⟩ := ReadingSet.exists_fault_of_encode failed
  have numeric : register ≠ .timestamp := Register.mem_payloadOrder_iff.mp sent
  obtain ⟨present, here⟩ := ReadingSet.exists_reading_of_ofLines complete extracted numeric
  simp only [registerFault?, here, Option.ite_none_right_eq_some] at faulty
  obtain ⟨⟨unmasked, negative⟩, same⟩ := faulty
  cases same
  exact .negative extracted here unmasked negative

theorem failure_of_encryptIfKeyed {payload : Payload} {error : PayloadError}
    (failed : encryptIfKeyed holder.cipherKey payload = .error error) :
    Failure holder log (.payload error) := by
  cases keyed : holder.cipherKey with
  | none =>
      rw [keyed, encryptIfKeyed_none] at failed
      cases failed
  | some key =>
      rw [keyed, encryptIfKeyed_some] at failed
      rcases Payload.encrypt_eq_error (map_eq_error_iff.mp failed) with ⟨odd, rfl⟩ | ⟨fault, rfl⟩
      · exact .oddLength keyed odd
      · exact .invalidHex keyed

theorem failure_of_chunks {payload : Payload} {error : PayloadError}
    (failed : (payload.chunks holder.settings.payload.chunkLength.toNat).outcome = .error error) :
    Failure holder log (.payload error) := by
  rw [Payload.outcome_chunks] at failed
  obtain ⟨zero, rfl⟩ := Payload.cut_eq_error_iff.mp failed
  exact .chunkLength (UInt64.toNat_inj.mp zero)

theorem failure_of_complete (complete : holder.table.Complete) {error : UplinkError}
    (failed : (prepare holder log).outcome = .error error) : Failure holder log error := by
  rcases Journaled.outcome_bind_eq_error_iff.mp failed with refused | ⟨readings, extracted, failed⟩
  · obtain ⟨cause, reason, rfl⟩ := Journaled.outcome_mapError_eq_error_iff.mp refused
    exact .extract reason
  have read := Journaled.outcome_mapError_eq_ok_iff.mp extracted
  rcases Journaled.outcome_bind_eq_error_iff.mp failed with unsent | ⟨payload, _, failed⟩
  · obtain ⟨cause, reason, rfl⟩ := Journaled.outcome_mapError_eq_error_iff.mp unsent
    exact failure_of_encode complete read reason
  rcases Journaled.outcome_bind_eq_error_iff.mp failed with none | ⟨_, _, failed⟩
  · cases none
  rcases Journaled.outcome_bind_eq_error_iff.mp failed with unread | ⟨ciphertext, _, failed⟩
  · obtain ⟨cause, reason, rfl⟩ := mapError_eq_error_iff.mp unread
    exact failure_of_encryptIfKeyed reason
  rcases Journaled.outcome_bind_eq_error_iff.mp failed with uncut | ⟨chunks, _, none⟩
  · obtain ⟨cause, reason, rfl⟩ := Journaled.outcome_mapError_eq_error_iff.mp uncut
    exact failure_of_chunks reason
  · cases none

/-- Masked and without a key, an uplink can be prepared from every log that can be extracted. -/
theorem exists_prepare_iff (complete : holder.table.Complete)
    (masked : holder.settings.payload.masking = .masked) (unkeyed : holder.cipherKey = none)
    (positive : holder.settings.payload.chunkLength ≠ 0) :
    (∃ uplink, (prepare holder log).outcome = .ok uplink) ↔
      ∃ readings, (ReadingSet.ofText holder.table log).outcome = .ok readings := by
  constructor
  · rintro ⟨uplink, prepared⟩
    exact ⟨uplink.readings, (prepare_eq_ok_iff.mp prepared).1⟩
  · rintro ⟨readings, extracted⟩
    cases prepared : (prepare holder log).outcome with
    | ok uplink => exact ⟨uplink, rfl⟩
    | error error =>
        cases failure_of_complete complete prepared with
        | extract refused => simp [extracted] at refused
        | negative _ _ unmasked _ => simp [masked] at unmasked
        | oddLength keyed _ => simp [unkeyed] at keyed
        | invalidHex keyed => simp [unkeyed] at keyed
        | chunkLength zero => exact absurd zero positive

/-- A holder of accepted settings fails in the ways of `Failure` and in no other, under any
assignments: never for lack of a reading or for its key. As it was accepted, it does not fail for
its chunk length either. -/
theorem failure_of_prepare {settings : Settings} {start : Holder}
    (accepted : (Holder.ofSettings settings).outcome = .ok start)
    (assignments : List Holder.Assignment) (log : String) :
    let holder := assignments.foldl Holder.assign start
    (∀ error, (prepare holder log).outcome = .error error → Failure holder log error) ∧
      (prepare start log).outcome ≠ .error (.payload .invalidChunkLength) ∧
      (holder.settings.payload.masking = .masked → holder.cipherKey = none →
        holder.settings.payload.chunkLength ≠ 0 →
        ((∃ uplink, (prepare holder log).outcome = .ok uplink) ↔
          ∃ readings, (ReadingSet.ofText holder.table log).outcome = .ok readings)) := by
  intro holder
  have complete : start.table.Complete := Holder.complete_of_ofSettings accepted
  have kept : holder.table.Complete := by
    rw [(start.foldl_assign_keeps assignments).1]
    exact complete
  refine ⟨fun error => failure_of_complete kept, fun failed => ?_, exists_prepare_iff kept⟩
  cases failure_of_complete complete failed with
  | chunkLength zero => exact Holder.chunkLength_of_ofSettings accepted zero

/-- Widths that would be refused and an empty list of registers are assigned, and do no harm. -/
theorem failure_of_prepare_assigned :
    let widest : WidthSettings := ⟨200, 0, 0xFFFFFFFF⟩
    let holder := [Holder.Assignment.payload { maskWidths := widest }, .registers []].foldl
      Holder.assign ⟨{}, "", .standard, none⟩
    ∃ uplink, (prepare holder (standardLog "1D:20")).outcome = .ok uplink := by
  obtain ⟨readings, extracted, _⟩ := exists_encode_standardLog
  have ⟨_, _, succeeds⟩ := failure_of_prepare Holder.ofSettings_default
    [.payload { maskWidths := ⟨200, 0, 0xFFFFFFFF⟩ }, .registers []] (standardLog "1D:20")
  exact (succeeds rfl rfl (by decide)).mpr ⟨readings, extracted⟩

end MeterUplink.Uplink
