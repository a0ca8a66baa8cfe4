import MeterUplink.Proofs.Journal
import MeterUplink.Proofs.Numeral.HexBytes
import MeterUplink.Proofs.Payload.Timestamp
import MeterUplink.Proofs.Text.Blank

namespace MeterUplink

/-! Which characters a payload consists of: those of the timestamp that are sent, then digits. So
no payload has a blank in it, whatever the timestamp field of the log says. -/

theorem Hex.isLowerDigit_iff {c : Char} :
    Hex.isLowerDigit c = true ↔
      (48 ≤ c.toNat ∧ c.toNat ≤ 57) ∨ (97 ≤ c.toNat ∧ c.toNat ≤ 102) := by
  simp only [Hex.isLowerDigit, Bool.or_eq_true, Bool.and_eq_true, decide_eq_true_eq]
  exact Iff.rfl

theorem Hex.not_isBlank_of_isLowerDigit {c : Char} (isDigit : Hex.isLowerDigit c = true) :
    Text.isBlank c = false := by
  have bounds := Hex.isLowerDigit_iff.mp isDigit
  exact Text.not_isBlank_of_visible (by omega) (by omega)

theorem Hex.isLowerDigit_of_mem_ofNat {n : Nat} {c : Char} (member : c ∈ Hex.ofNat n) :
    Hex.isLowerDigit c = true := by
  fun_induction Hex.ofNat n with
  | case1 n small =>
      obtain rfl := List.mem_singleton.mp member
      exact Hex.isLowerDigit_digit small
  | case2 n large ih =>
      rcases List.mem_append.mp member with high | low
      · exact ih high
      · obtain rfl := List.mem_singleton.mp low
        exact Hex.isLowerDigit_digit (by omega)

theorem Hex.isLowerDigit_of_mem_render {n : Nat} {c : Char} (member : c ∈ (Hex.render n).toList) :
    Hex.isLowerDigit c = true := by
  rw [Hex.render, String.toList_ofList] at member
  exact Hex.isLowerDigit_of_mem_ofNat member

theorem magnitudeDigits_eq_ok {settings : PayloadSettings} {register : Register}
    {magnitude : Signed128} {digits : String}
    (rendered : magnitudeDigits settings register magnitude = .ok digits) :
    ∃ n, digits = Hex.render n := by
  rw [magnitudeDigits] at rendered
  split at rendered
  · cases rendered
    exact ⟨_, rfl⟩
  · split at rendered
    · cases rendered
    · cases rendered
      exact ⟨_, rfl⟩

/-- What stands for one register is what is sent of its magnitude and of its scale. -/
theorem encodeReadings_cons_eq_ok {settings : PayloadSettings} {readings : ByRegister Reading}
    {register : Register} {rest : List Register} {digits : String}
    (encoded : (encodeReadings settings readings (register :: rest)).outcome = .ok digits) :
    ∃ reading magnitude following, readings.get? register = some reading ∧
      magnitudeDigits settings register reading.magnitude = .ok magnitude ∧
      (encodeReadings settings readings rest).outcome = .ok following ∧
      digits = magnitude ++ scaleDigits settings reading.scale ++ following := by
  obtain ⟨⟨magnitude, scale⟩, first, encoded⟩ := Journaled.outcome_bind_eq_ok_iff.mp encoded
  obtain ⟨_, _, encoded⟩ := Journaled.outcome_bind_eq_ok_iff.mp encoded
  obtain ⟨following, later, encoded⟩ := Journaled.outcome_bind_eq_ok_iff.mp encoded
  cases encoded
  rw [Journaled.outcome_ofExcept, readingDigits] at first
  split at first
  · cases first
  · rename_i reading stored
    obtain ⟨_, rendered, same⟩ := bind_eq_ok_iff.mp first
    cases same
    exact ⟨reading, magnitude, following, stored, rendered, later, rfl⟩

theorem isLowerDigit_of_encodeReadings {settings : PayloadSettings}
    {readings : ByRegister Reading} {registers : List Register} {digits : String}
    (encoded : (encodeReadings settings readings registers).outcome = .ok digits) :
    ∀ c ∈ digits.toList, Hex.isLowerDigit c = true := by
  induction registers generalizing digits with
  | nil =>
      cases encoded
      simp
  | cons register rest ih =>
      obtain ⟨reading, magnitude, following, _, rendered, later, rfl⟩ :=
        encodeReadings_cons_eq_ok encoded
      obtain ⟨n, rfl⟩ := magnitudeDigits_eq_ok rendered
      intro c member
      simp only [String.toList_append, List.mem_append] at member
      rcases member with (inMagnitude | inScale) | inRest
      · exact Hex.isLowerDigit_of_mem_render inMagnitude
      · exact Hex.isLowerDigit_of_mem_render inScale
      · exact ih later c inRest

theorem not_isBlank_of_normalizeTimestamp {timestamp separators : String} {truncate : Nat} :
    ∀ c ∈ (normalizeTimestamp timestamp separators truncate).toList, Text.isBlank c = false :=
  fun c member => (kept_of_mem_normalizeTimestamp c member).1

namespace ReadingSet

theorem encode_eq_ok {readings : ReadingSet} {settings : PayloadSettings} {payload : Payload}
    (encoded : (readings.encode settings).outcome = .ok payload) :
    ∃ digits, (∀ c ∈ digits.toList, Hex.isLowerDigit c = true) ∧
      payload.text = normalizeTimestamp readings.timestamp settings.timestampSeparators
        settings.timestampTruncate.toNat ++ digits := by
  obtain ⟨digits, rendered, encoded⟩ := Journaled.outcome_bind_eq_ok_iff.mp encoded
  obtain ⟨_, _, encoded⟩ := Journaled.outcome_bind_eq_ok_iff.mp encoded
  cases encoded
  exact ⟨digits, isLowerDigit_of_encodeReadings rendered, rfl⟩

/-- Of a payload, only the time can be anything but digits. -/
theorem forall_mem_encode_iff {readings : ReadingSet} {settings : PayloadSettings}
    {payload : Payload} {holds : Char → Prop}
    (encoded : (readings.encode settings).outcome = .ok payload)
    (ofDigit : ∀ c, Hex.isLowerDigit c = true → holds c) :
    (∀ c ∈ payload.text.toList, holds c) ↔
      ∀ c ∈ (normalizeTimestamp readings.timestamp settings.timestampSeparators
        settings.timestampTruncate.toNat).toList, holds c := by
  obtain ⟨digits, areDigits, text⟩ := encode_eq_ok encoded
  rw [text, String.toList_append, List.forall_mem_append]
  exact ⟨And.left, fun inTime => ⟨inTime, fun c member => ofDigit c (areDigits c member)⟩⟩

theorem not_isBlank_of_encode {readings : ReadingSet} {settings : PayloadSettings}
    {payload : Payload} (encoded : (readings.encode settings).outcome = .ok payload) :
    ∀ c ∈ payload.text.toList, Text.isBlank c = false :=
  (forall_mem_encode_iff encoded fun _ => Hex.not_isBlank_of_isLowerDigit).mpr
    not_isBlank_of_normalizeTimestamp

end ReadingSet

end MeterUplink
