import MeterUplink.Payload
import MeterUplink.Payload.Mask
import MeterUplink.Reading
import MeterUplink.Settings

namespace MeterUplink

/-! The payload of a set of readings: the normalized timestamp, then magnitude and scale of
each numeric register, as hexadecimal numbers without padding. -/

/-- The characters of a timestamp that are sent: neither blanks nor separators. -/
def timestampCharacters (timestamp separators : String) : List Char :=
  timestamp.toList.filter fun c => !Text.isBlank c && !separators.toList.contains c

/-- The characters that are sent, without the last `truncate` of them. -/
def normalizeTimestamp (timestamp separators : String) (truncate : Nat) : String :=
  let kept := timestampCharacters timestamp separators
  String.ofList (kept.take (kept.length - truncate))

/-- The width to which the magnitudes of a register are masked. -/
def WidthSettings.ofRegister (widths : WidthSettings) (register : Register) : Nat :=
  match register.registerClass with
  | .energy => widths.energy.toNat
  | _ => widths.instantaneous.toNat

/-- The digits of a magnitude; without masking it must not be negative. -/
def magnitudeDigits (settings : PayloadSettings) (register : Register) (magnitude : Signed128) :
    Except PayloadError String :=
  match settings.masking with
  | .masked =>
    .ok (Hex.render (magnitude.mask (settings.maskWidths.ofRegister register)).toNat)
  | .unmasked =>
    if magnitude.value < 0 then .error (.negativeMagnitude register magnitude)
    else .ok (Hex.render magnitude.value.toNat)

/-- The digits of a scale, masked under either policy. -/
def scaleDigits (settings : PayloadSettings) (scale : Signed128) : String :=
  Hex.render (scale.mask settings.maskWidths.scale.toNat).toNat

/-- The digits of a register's reading: those of the magnitude and those of the scale. -/
def readingDigits (settings : PayloadSettings) (readings : ByRegister Reading)
    (register : Register) : Except PayloadError (String × String) :=
  match readings.get? register with
  | none => .error (.missingReading register)
  | some reading => do
    let magnitude ← magnitudeDigits settings register reading.magnitude
    pure (magnitude, scaleDigits settings reading.scale)

/-- The digits of several registers, one after another. -/
def encodeReadings (settings : PayloadSettings) (readings : ByRegister Reading) :
    List Register → Journaled PayloadError String
  | [] => pure ""
  | register :: rest => do
    let (magnitude, scale) ← Journaled.ofExcept (readingDigits settings readings register)
    Journaled.emit .debug .encoding s!"{register.name}: {magnitude} {scale}"
    let following ← encodeReadings settings readings rest
    pure (magnitude ++ scale ++ following)

/-- The payload of a set of readings. The journal tells its size in bytes of UTF-8. -/
def ReadingSet.encode (readings : ReadingSet) (settings : PayloadSettings) :
    Journaled PayloadError Payload := do
  let timestamp := normalizeTimestamp readings.timestamp settings.timestampSeparators
    settings.timestampTruncate.toNat
  let digits ← encodeReadings settings readings.readings Register.payloadOrder
  let payload : Payload := ⟨timestamp ++ digits⟩
  Journaled.emit .info .encoding s!"Encoded payload of {payload.text.utf8ByteSize} characters"
  pure payload

end MeterUplink
