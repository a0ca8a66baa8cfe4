import Mathlib.Algebra.Order.Floor.Div
import Mathlib.GroupTheory.GroupAction.Ring
import MeterUplink.Proofs.Payload.Characters
import MeterUplink.Proofs.Payload.Mask

namespace MeterUplink

/-! How long a payload is. Every number has a digit, zero too, so whatever the widths are each
register adds two characters or more to those of the timestamp; and a digit stands for four bits, so
the widths are a bound on what it adds. -/

namespace Hex

theorem one_le_length_render (n : Nat) : 1 ≤ (render n).length := by
  rw [render_eq_toDigits, String.length_ofList]
  exact Nat.length_toDigits_pos

theorem length_render_le_iff {n count : Nat} (positive : 0 < count) :
    (render n).length ≤ count ↔ n < 16 ^ count := by
  rw [render_eq_toDigits, String.length_ofList]
  exact Nat.length_toDigits_le_iff (by decide) positive

/-- A digit for every four bits, and one for the bits that are left. -/
theorem length_render_le_ceilDiv {n width : Nat} (positive : 0 < width) (small : n < 2 ^ width) :
    (render n).length ≤ width ⌈/⌉ 4 := by
  have covered : width ≤ 4 * (width ⌈/⌉ 4) := (ceilDiv_le_iff_le_mul (by decide)).mp le_rfl
  apply (length_render_le_iff (by omega)).mpr
  calc
    n < 2 ^ width := small
    _ ≤ 2 ^ (4 * (width ⌈/⌉ 4)) := Nat.pow_le_pow_right (by decide) covered
    _ = 16 ^ (width ⌈/⌉ 4) := Nat.pow_mul 2 4 _

end Hex

namespace Signed128

theorem toNat_value_lt (n : Signed128) : n.value.toNat < 2 ^ 128 := by
  have below : n.value < 2 ^ 127 := BitVec.toInt_lt
  omega

end Signed128

/-- The most digits that a magnitude of the width takes. -/
def PayloadSettings.mostDigits (settings : PayloadSettings) (width : Nat) : Nat :=
  match settings.masking with
  | .masked => width ⌈/⌉ 4
  | .unmasked => 32

variable {settings : PayloadSettings}

theorem length_magnitudeDigits_le {register : Register} {magnitude : Signed128} {digits : String}
    (positive : 0 < settings.maskWidths.ofRegister register)
    (rendered : magnitudeDigits settings register magnitude = .ok digits) :
    digits.length ≤ settings.mostDigits (settings.maskWidths.ofRegister register) := by
  rw [magnitudeDigits] at rendered
  cases masking : settings.masking with
  | masked =>
      simp only [masking] at rendered
      cases rendered
      rw [PayloadSettings.mostDigits, masking]
      exact Hex.length_render_le_ceilDiv positive (magnitude.toNat_mask_lt _)
  | unmasked =>
      simp only [masking] at rendered
      split at rendered
      · cases rendered
      · cases rendered
        rw [PayloadSettings.mostDigits, masking]
        exact (Hex.length_render_le_iff (show 0 < 32 by decide)).mpr magnitude.toNat_value_lt

theorem length_scaleDigits_le {scale : Signed128} (positive : 0 < settings.maskWidths.scale.toNat) :
    (scaleDigits settings scale).length ≤ settings.maskWidths.scale.toNat ⌈/⌉ 4 :=
  Hex.length_render_le_ceilDiv positive (scale.toNat_mask_lt _)

/-- No width is zero. -/
structure WidthSettings.Positive (widths : WidthSettings) : Prop where
  energy : 1 ≤ widths.energy.toNat
  instantaneous : 1 ≤ widths.instantaneous.toNat
  scale : 1 ≤ widths.scale.toNat

theorem WidthSettings.Positive.ofRegister {widths : WidthSettings} (positive : widths.Positive)
    (register : Register) : 0 < widths.ofRegister register := by
  rw [WidthSettings.ofRegister]
  split
  · exact positive.energy
  · exact positive.instantaneous

section Readings

variable {readings : ByRegister Reading} {registers : List Register} {digits : String}

theorem two_mul_length_le_of_encodeReadings
    (encoded : (encodeReadings settings readings registers).outcome = .ok digits) :
    2 * registers.length ≤ digits.length := by
  induction registers generalizing digits with
  | nil => exact Nat.zero_le _
  | cons register rest ih =>
      obtain ⟨reading, magnitude, following, _, rendered, later, rfl⟩ :=
        encodeReadings_cons_eq_ok encoded
      obtain ⟨n, rfl⟩ := magnitudeDigits_eq_ok rendered
      have ofMagnitude := Hex.one_le_length_render n
      have ofScale : 1 ≤ (scaleDigits settings reading.scale).length :=
        Hex.one_le_length_render _
      have ofRest := ih later
      simp only [String.length_append, List.length_cons]
      omega

theorem length_le_sum_of_encodeReadings
    (positive : settings.maskWidths.Positive)
    (encoded : (encodeReadings settings readings registers).outcome = .ok digits) :
    digits.length ≤ (registers.map fun register =>
      settings.mostDigits (settings.maskWidths.ofRegister register) +
        settings.maskWidths.scale.toNat ⌈/⌉ 4).sum := by
  induction registers generalizing digits with
  | nil =>
      cases encoded
      exact Nat.le_refl 0
  | cons register rest ih =>
      obtain ⟨reading, magnitude, following, _, rendered, later, rfl⟩ :=
        encodeReadings_cons_eq_ok encoded
      have ofMagnitude := length_magnitudeDigits_le (positive.ofRegister register) rendered
      have ofScale : (scaleDigits settings reading.scale).length ≤ _ :=
        length_scaleDigits_le positive.scale
      have ofRest := ih later
      simp only [String.length_append, List.map_cons, List.sum_cons]
      omega

end Readings

namespace ReadingSet

/-- What the timestamp adds to a payload. -/
def timeLength (readings : ReadingSet) (settings : PayloadSettings) : Nat :=
  (normalizeTimestamp readings.timestamp settings.timestampSeparators
    settings.timestampTruncate.toNat).length

/-- The most that the widths allow: four registers are of the energy class, eight instantaneous. -/
def mostLength (readings : ReadingSet) (settings : PayloadSettings) : Nat :=
  readings.timeLength settings + 4 * settings.mostDigits settings.maskWidths.energy.toNat +
    8 * settings.mostDigits settings.maskWidths.instantaneous.toNat +
    12 * (settings.maskWidths.scale.toNat ⌈/⌉ 4)

variable {readings : ReadingSet} {payload : Payload}

theorem exists_digits_of_encode (encoded : (readings.encode settings).outcome = .ok payload) :
    ∃ digits, (encodeReadings settings readings.readings Register.payloadOrder).outcome =
        .ok digits ∧ payload.length = readings.timeLength settings + digits.length := by
  obtain ⟨digits, rendered, encoded⟩ := Journaled.outcome_bind_eq_ok_iff.mp encoded
  obtain ⟨_, _, encoded⟩ := Journaled.outcome_bind_eq_ok_iff.mp encoded
  cases encoded
  exact ⟨digits, rendered, String.length_append _ _⟩

theorem le_length_of_encode (encoded : (readings.encode settings).outcome = .ok payload) :
    readings.timeLength settings + 24 ≤ payload.length := by
  obtain ⟨digits, rendered, length⟩ := exists_digits_of_encode encoded
  have twelve : 2 * Register.payloadOrder.length ≤ digits.length :=
    two_mul_length_le_of_encodeReadings rendered
  have registers : Register.payloadOrder.length = 12 := rfl
  omega

theorem length_le_of_encode (positive : settings.maskWidths.Positive)
    (encoded : (readings.encode settings).outcome = .ok payload) :
    payload.length ≤ readings.mostLength settings := by
  obtain ⟨digits, rendered, length⟩ := exists_digits_of_encode encoded
  have sum := length_le_sum_of_encodeReadings positive rendered
  simp only [Register.payloadOrder, List.map_cons, List.map_nil, List.sum_cons, List.sum_nil,
    WidthSettings.ofRegister, Register.registerClass] at sum
  rw [mostLength]
  omega

end ReadingSet

end MeterUplink
