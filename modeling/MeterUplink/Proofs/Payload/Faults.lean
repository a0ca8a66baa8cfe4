import MeterUplink.Payload.Encoding
import MeterUplink.Payload.Encryption
import MeterUplink.Proofs.Payload.Chunks

namespace MeterUplink

/-! What each stage between the readings and the frames can fail with. -/

/-- Why a register cannot be sent. -/
def registerFault? (settings : PayloadSettings) (readings : ByRegister Reading)
    (register : Register) : Option PayloadError :=
  match readings.get? register with
  | none => some (.missingReading register)
  | some reading =>
    if settings.masking = .unmasked ∧ reading.magnitude.value < 0 then
      some (.negativeMagnitude register reading.magnitude)
    else none

theorem readingDigits_of_fault {settings : PayloadSettings} {readings : ByRegister Reading}
    {register : Register} {error : PayloadError}
    (faulty : registerFault? settings readings register = some error) :
    readingDigits settings readings register = .error error := by
  rw [registerFault?] at faulty
  rw [readingDigits]
  cases stored : readings.get? register with
  | none =>
      rw [stored] at faulty
      cases faulty
      rfl
  | some reading =>
      simp only [stored, Option.ite_none_right_eq_some] at faulty
      obtain ⟨⟨unmasked, negative⟩, same⟩ := faulty
      cases same
      simp only [magnitudeDigits, unmasked, negative, if_true]
      rfl

namespace Payload

theorem encrypt_eq_error {key : Cipher.CipherKey} {payload : Payload} {error : PayloadError}
    (failed : payload.encrypt key = .error error) :
    (payload.length % 2 = 1 ∧ error = .oddLength payload.length) ∨
      ∃ fault, error = .invalidHex fault := by
  have unread : payload.bytes = .error error := map_eq_error_iff.mp failed
  rw [bytes] at unread
  split at unread
  case isTrue odd =>
    cases unread
    exact .inl ⟨odd, rfl⟩
  case isFalse =>
    obtain ⟨fault, _, same⟩ := mapError_eq_error_iff.mp unread
    exact .inr ⟨fault, same.symm⟩

end Payload

end MeterUplink
