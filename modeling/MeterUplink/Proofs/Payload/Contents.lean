import MeterUplink.Proofs.Payload.Faults
import MeterUplink.Proofs.Payload.Mask

namespace MeterUplink

/-! What a payload consists of, number by number, and on what it depends. The first register that
cannot be sent decides which error there is; if there is none, every register adds its numbers. -/

/-- The bits that are sent of a magnitude: one width for the four energies, one for all else. -/
def magnitudeWidth (widths : WidthSettings) (register : Register) : Nat :=
  if register ∈ [.activeEnergyImported, .reactiveEnergyImported, .activeEnergyExported,
      .reactiveEnergyExported] then widths.energy.toNat
  else widths.instantaneous.toNat

theorem ofRegister_eq_magnitudeWidth (widths : WidthSettings) (register : Register) :
    widths.ofRegister register = magnitudeWidth widths register := by
  cases register <;> rfl

def sentMagnitude (settings : PayloadSettings) (register : Register) (magnitude : Signed128) : Nat :=
  match settings.masking with
  | .masked =>
    (magnitude.value % 2 ^ min (magnitudeWidth settings.maskWidths register) 128).toNat
  | .unmasked => magnitude.value.toNat

def sentScale (settings : PayloadSettings) (scale : Signed128) : Nat :=
  (scale.value % 2 ^ min settings.maskWidths.scale.toNat 128).toNat

/-- The two numbers of a register, written to base sixteen. -/
def registerDigits (settings : PayloadSettings) (register : Register) (reading : Reading) : String :=
  String.ofList (Nat.toDigits 16 (sentMagnitude settings register reading.magnitude)) ++
    String.ofList (Nat.toDigits 16 (sentScale settings reading.scale))

/-- Readings of a register that differ in nothing that is sent. -/
def Reading.Alike (settings : PayloadSettings) (register : Register) (first second : Reading) :
    Prop :=
  (match settings.masking with
    | .masked => first.magnitude.value ≡ second.magnitude.value
        [ZMOD 2 ^ magnitudeWidth settings.maskWidths register]
    | .unmasked => first.magnitude = second.magnitude) ∧
  first.scale.value ≡ second.scale.value [ZMOD 2 ^ settings.maskWidths.scale.toNat]

section

variable {settings : PayloadSettings} {readings first second : ByRegister Reading}
  {register : Register} {registers : List Register} {reading : Reading} {error : PayloadError}

theorem scaleDigits_eq (settings : PayloadSettings) (scale : Signed128) :
    scaleDigits settings scale = String.ofList (Nat.toDigits 16 (sentScale settings scale)) := by
  rw [scaleDigits, Hex.render_eq_toDigits, Signed128.toNat_mask, sentScale]

theorem magnitudeDigits_of_sound {magnitude : Signed128}
    (sound : ¬ (settings.masking = .unmasked ∧ magnitude.value < 0)) :
    magnitudeDigits settings register magnitude =
      .ok (String.ofList (Nat.toDigits 16 (sentMagnitude settings register magnitude))) := by
  rw [magnitudeDigits, sentMagnitude]
  cases masking : settings.masking with
  | masked =>
      simp only [Hex.render_eq_toDigits, Signed128.toNat_mask, ofRegister_eq_magnitudeWidth]
  | unmasked =>
      have natural : ¬ magnitude.value < 0 := fun negative => sound ⟨masking, negative⟩
      simp only [natural, if_false, Hex.render_eq_toDigits]

theorem exists_of_sound (sound : registerFault? settings readings register = none) :
    ∃ reading, readings.get? register = some reading ∧ readingDigits settings readings register =
      .ok (String.ofList (Nat.toDigits 16 (sentMagnitude settings register reading.magnitude)),
        String.ofList (Nat.toDigits 16 (sentScale settings reading.scale))) := by
  rw [registerFault?] at sound
  rw [readingDigits]
  cases stored : readings.get? register with
  | none =>
      rw [stored] at sound
      cases sound
  | some reading =>
      simp only [stored, ite_eq_right_iff, reduceCtorEq, imp_false] at sound
      refine ⟨reading, rfl, ?_⟩
      simp only [magnitudeDigits_of_sound sound, scaleDigits_eq]
      rfl

/-- The registers before the first one at fault are encoded in vain. -/
theorem outcome_encodeReadings (settings : PayloadSettings) (readings : ByRegister Reading)
    (registers : List Register) :
    (encodeReadings settings readings registers).outcome =
      match registers.findSome? (registerFault? settings readings) with
      | some error => .error error
      | none => .ok (String.join (registers.filterMap fun register =>
          (readings.get? register).map (registerDigits settings register))) := by
  induction registers with
  | nil => rfl
  | cons register rest ih =>
      rw [encodeReadings, List.findSome?_cons]
      cases faulty : registerFault? settings readings register with
      | some error => exact Journaled.outcome_bind_of_error (readingDigits_of_fault faulty)
      | none =>
          -- nothing wrong here, so the outcome is decided by the rest
          obtain ⟨reading, stored, digits⟩ := exists_of_sound faulty
          rw [Journaled.outcome_bind_of_ok digits, Journaled.outcome_bind_of_ok rfl]
          cases later : rest.findSome? (registerFault? settings readings) with
          | some error =>
              rw [later] at ih
              exact Journaled.outcome_bind_of_error ih
          | none =>
              rw [later] at ih
              rw [Journaled.outcome_bind_of_ok ih, List.filterMap_cons, stored]
              simp only [Option.map_some, String.join_cons, registerDigits]
              rfl

theorem magnitudeDigits_of_alike {first second : Reading}
    (alike : first.Alike settings register second) :
    magnitudeDigits settings register first.magnitude =
      magnitudeDigits settings register second.magnitude := by
  obtain ⟨magnitudes, _⟩ := alike
  rw [magnitudeDigits, magnitudeDigits]
  cases masking : settings.masking with
  | masked =>
      simp only [masking, ← ofRegister_eq_magnitudeWidth] at magnitudes
      simp only [Signed128.toNat_mask_of_modEq magnitudes]
  | unmasked =>
      simp only [masking] at magnitudes
      rw [magnitudes]

theorem readingDigits_of_alike
    (alike : Option.Rel (Reading.Alike settings register) (first.get? register)
      (second.get? register)) :
    readingDigits settings first register = readingDigits settings second register := by
  rw [readingDigits, readingDigits]
  generalize first.get? register = here at alike ⊢
  generalize second.get? register = there at alike ⊢
  cases alike with
  | none => rfl
  | some same =>
      simp only [magnitudeDigits_of_alike same, scaleDigits, Signed128.toNat_mask_of_modEq same.2]

/-- The journal, too, is told nothing of the readings but the digits. -/
theorem encodeReadings_of_alike
    (alike : ∀ register ∈ registers, Option.Rel (Reading.Alike settings register)
      (first.get? register) (second.get? register)) :
    encodeReadings settings first registers = encodeReadings settings second registers := by
  induction registers with
  | nil => rfl
  | cons register rest ih =>
      obtain ⟨here, later⟩ := List.forall_mem_cons.mp alike
      rw [encodeReadings, encodeReadings, readingDigits_of_alike here, ih later]

end

namespace ReadingSet

theorem outcome_encode (readings : ReadingSet) (settings : PayloadSettings) :
    (readings.encode settings).outcome =
      match Register.payloadOrder.findSome? (registerFault? settings readings.readings) with
      | some error => .error error
      | none => .ok ⟨normalizeTimestamp readings.timestamp settings.timestampSeparators
            settings.timestampTruncate.toNat ++
          String.join (Register.payloadOrder.filterMap fun register =>
            (readings.readings.get? register).map (registerDigits settings register))⟩ := by
  have encoded := outcome_encodeReadings settings readings.readings Register.payloadOrder
  cases faulty : Register.payloadOrder.findSome? (registerFault? settings readings.readings) with
  | some error =>
      rw [faulty] at encoded
      exact Journaled.outcome_bind_of_error encoded
  | none =>
      rw [faulty] at encoded
      exact Journaled.outcome_bind_of_ok encoded

theorem exists_fault_of_encode {readings : ReadingSet} {settings : PayloadSettings}
    {error : PayloadError} (failed : (readings.encode settings).outcome = .error error) :
    ∃ register ∈ Register.payloadOrder,
      registerFault? settings readings.readings register = some error := by
  rw [outcome_encode] at failed
  split at failed
  case h_1 cause faulty =>
    cases failed
    exact List.exists_of_findSome?_eq_some faulty
  case h_2 => cases failed

/-- A payload is the time and then the digits of every register, or there is none because of the
first register at fault. Readings that are alike give the same payload with the same journal; what
is kept under the timestamp register, and all lines, do not count. -/
theorem encode_contents (readings : ReadingSet) (settings : PayloadSettings) :
    ((readings.encode settings).outcome =
      match Register.payloadOrder.findSome? (registerFault? settings readings.readings) with
      | some error => .error error
      | none => .ok ⟨normalizeTimestamp readings.timestamp settings.timestampSeparators
            settings.timestampTruncate.toNat ++
          String.join (Register.payloadOrder.filterMap fun register =>
            (readings.readings.get? register).map (registerDigits settings register))⟩) ∧
    ∀ other : ReadingSet, other.timestamp = readings.timestamp →
      (∀ register ∈ Register.payloadOrder, Option.Rel (Reading.Alike settings register)
        (readings.readings.get? register) (other.readings.get? register)) →
      other.encode settings = readings.encode settings := by
  refine ⟨outcome_encode readings settings, fun other sameTime alike => ?_⟩
  rw [encode, encode, sameTime, encodeReadings_of_alike alike]

/-- Under masks, -1 is sent like the greatest number of 32 bits; without them it is refused, but not
before a register without a reading that comes first. -/
theorem encode_contents_negative :
    let readings : ReadingSet := ⟨"1D:20", ⟨fun _ => some ⟨⟨-1⟩, ⟨3⟩⟩⟩, ∅⟩
    let other : ReadingSet :=
      ⟨"1D:20", ByRegister.ofList (Register.payloadOrder.map (·, ⟨⟨0xFFFFFFFF⟩, ⟨0x103⟩⟩)),
        ⟨fun register => some ⟨"", register, []⟩⟩⟩
    let lone : ReadingSet := ⟨"", ByRegister.ofList [(.frequency, ⟨⟨-1⟩, ⟨3⟩⟩)], ∅⟩
    (readings.encode {}).outcome =
      .ok ⟨"1D20ffffffff3ffffffff3ffffffff3ffffffff3" ++ "ffff3ffff3ffff3ffff3ffff3ffff3ffff3ffff3"⟩ ∧
    other.encode {} = readings.encode {} ∧
    (readings.encode { masking := .unmasked }).outcome =
      .error (.negativeMagnitude .activeEnergyImported ⟨-1⟩) ∧
    (lone.encode { masking := .unmasked }).outcome =
      .error (.missingReading .activeEnergyImported) := by
  intro readings other lone
  refine ⟨?_, ?_, ?_, ?_⟩
  · exact (encode_contents readings {}).1.trans (by decide +kernel)
  · refine (encode_contents readings {}).2 other rfl fun register member => ?_
    have stored : other.readings.get? register = some ⟨⟨0xFFFFFFFF⟩, ⟨0x103⟩⟩ := by
      revert register
      decide +kernel
    rw [stored]
    refine .some ⟨?_, by decide +kernel⟩
    revert register
    decide +kernel
  · exact (encode_contents readings _).1.trans (by decide +kernel)
  · exact (encode_contents lone _).1.trans (by decide +kernel)

/-- A width beyond 128 takes no bits that the word does not have: the scale -1 is not sent as the
greatest number of 200 bits. -/
theorem wide_scale_not_reduced :
    let settings : PayloadSettings := { masking := .unmasked, maskWidths := { scale := 200 } }
    let reading : Reading := ⟨⟨0⟩, ⟨-1⟩⟩
    let readings : ReadingSet := ⟨"", ⟨fun _ => some reading⟩, ∅⟩
    (readings.encode settings).outcome =
      .ok ⟨String.join (List.replicate 12 ("0" ++ String.ofList (List.replicate 32 'f')))⟩ ∧
    (readings.encode settings).outcome ≠
      .ok ⟨normalizeTimestamp "" ":" 0 ++ String.join (Register.payloadOrder.map fun _ =>
        String.ofList (Nat.toDigits 16 reading.magnitude.value.toNat) ++
          String.ofList (Nat.toDigits 16
            (reading.scale.value % 2 ^ settings.maskWidths.scale.toNat).toNat))⟩ := by
  decide +kernel

end ReadingSet

end MeterUplink
