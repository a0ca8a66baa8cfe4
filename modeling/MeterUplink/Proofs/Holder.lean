import MeterUplink.Holder
import MeterUplink.Proofs.RegisterTable

namespace MeterUplink.Holder

/-! What a holder keeps of the settings it was made from, and what it keeps when its settings are
assigned anew. -/

/-- Accepted settings stay as they are; table and key are what they ask for. -/
theorem ofSettings_eq_ok_iff {settings : Settings} {holder : Holder} :
    (ofSettings settings).outcome = .ok holder ↔
      settings.checkRanges = .ok () ∧
      ∃ table cipherKey, RegisterTable.ofDefinitions? settings.registers = .ok table ∧
        settings.payload.encryption.cipherKey = .ok cipherKey ∧
        holder = ⟨settings, "", table, cipherKey⟩ := by
  constructor
  · intro accepted
    obtain ⟨_, ranges, accepted⟩ := Journaled.outcome_bind_eq_ok_iff.mp accepted
    obtain ⟨table, built, accepted⟩ := Journaled.outcome_bind_eq_ok_iff.mp accepted
    obtain ⟨cipherKey, keyed, accepted⟩ := Journaled.outcome_bind_eq_ok_iff.mp accepted
    obtain ⟨_, _, accepted⟩ := Journaled.outcome_bind_eq_ok_iff.mp accepted
    have made := Journaled.outcome_mapError_eq_ok_iff.mp built
    rw [RegisterTable.outcome_build] at made
    cases accepted
    exact ⟨mapError_eq_ok_iff.mp ranges, table, cipherKey, made, mapError_eq_ok_iff.mp keyed, rfl⟩
  · rintro ⟨ranges, table, cipherKey, made, keyed, rfl⟩
    rw [← RegisterTable.outcome_build] at made
    refine Journaled.outcome_bind_eq_ok_iff.mpr ⟨(), mapError_eq_ok_iff.mpr ranges, ?_⟩
    refine Journaled.outcome_bind_eq_ok_iff.mpr
      ⟨table, Journaled.outcome_mapError_eq_ok_iff.mpr made, ?_⟩
    exact Journaled.outcome_bind_eq_ok_iff.mpr ⟨cipherKey, mapError_eq_ok_iff.mpr keyed, rfl⟩

theorem ofSettings_default : (ofSettings {}).outcome = .ok ⟨{}, "", .standard, none⟩ :=
  ofSettings_eq_ok_iff.mpr
    ⟨by decide, .standard, none, RegisterTable.ofDefinitions?_standard, rfl, rfl⟩

theorem complete_of_ofSettings {settings : Settings} {holder : Holder}
    (accepted : (ofSettings settings).outcome = .ok holder) : holder.table.Complete := by
  obtain ⟨_, table, cipherKey, made, _, rfl⟩ := ofSettings_eq_ok_iff.mp accepted
  exact RegisterTable.complete_of_ofDefinitions? made

theorem chunkLength_of_ofSettings {settings : Settings} {holder : Holder}
    (accepted : (ofSettings settings).outcome = .ok holder) :
    holder.settings.payload.chunkLength ≠ 0 := by
  obtain ⟨ranges, table, cipherKey, _, _, rfl⟩ := ofSettings_eq_ok_iff.mp accepted
  intro zero
  rw [Settings.checkRanges, if_pos zero] at ranges
  cases ranges

/-- There is a key exactly if the accepted settings asked for encryption. -/
theorem isSome_cipherKey_of_ofSettings {settings : Settings} {holder : Holder}
    (accepted : (ofSettings settings).outcome = .ok holder) :
    holder.cipherKey.isSome = settings.payload.encryption.enabled := by
  obtain ⟨_, table, cipherKey, _, keyed, rfl⟩ := ofSettings_eq_ok_iff.mp accepted
  rw [EncryptionSettings.cipherKey] at keyed
  cases enabled : settings.payload.encryption.enabled with
  | true =>
      rw [enabled, if_pos rfl] at keyed
      obtain ⟨key, _, rfl⟩ := map_eq_ok_iff.mp keyed
      rfl
  | false =>
      rw [enabled, if_neg Bool.false_ne_true] at keyed
      cases keyed
      rfl

/-- A part of a holder that can be assigned from outside. No check is made. -/
inductive Assignment where
  | logFile (path : String)
  | basePath (path : String)
  | payload (payload : PayloadSettings)
  | registers (definitions : List Definition)

def assign (holder : Holder) : Assignment → Holder
  | .logFile path => holder.setLogFile path
  | .basePath path => holder.setBasePath path
  | .payload payload => holder.setPayload payload
  | .registers definitions => holder.setRegisters definitions

theorem assign_keeps (holder : Holder) (assignment : Assignment) :
    (holder.assign assignment).table = holder.table ∧
      (holder.assign assignment).cipherKey = holder.cipherKey := by
  cases assignment <;> exact ⟨rfl, rfl⟩

theorem foldl_assign_keeps (holder : Holder) (assignments : List Assignment) :
    (assignments.foldl assign holder).table = holder.table ∧
      (assignments.foldl assign holder).cipherKey = holder.cipherKey := by
  induction assignments generalizing holder with
  | nil => exact ⟨rfl, rfl⟩
  | cons assignment rest ih =>
      obtain ⟨table, cipherKey⟩ := holder.assign_keeps assignment
      rw [List.foldl_cons, (ih _).1, (ih _).2]
      exact ⟨table, cipherKey⟩

end MeterUplink.Holder
