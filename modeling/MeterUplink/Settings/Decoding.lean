import MeterUplink.Settings

namespace MeterUplink

/-! Settings read from a written value. What is left out takes its default, at every level, and
unknown keys do not count. A format says how its values are looked at; the rules for the
settings are the same in all formats. -/

/-- How the values of a written form are looked at. Each view is `none` on a value of another
kind. -/
structure Format (Written : Type) where
  text? : Written → Option String
  natural? : Written → Option Nat
  flag? : Written → Option Bool
  /-- The name of one of several alternatives. -/
  choice? : Written → Option String
  /-- The entries of a section whose keys have the given names. -/
  entries? : List String → Written → Option (List (String × Written))
  items? : Written → Option (List Written)

namespace Format

variable {Written α : Type} (format : Format Written)

/-- Entries in which no known key is repeated. -/
def section? (names : List String) (written : Written) : Option (List (String × Written)) := do
  let entries ← format.entries? names written
  if names.all fun name => (entries.filter (·.1 == name)).length ≤ 1 then some entries else none

/-- The value of a key, or the default if the key is absent. -/
def field (entries : List (String × Written)) (name : String) (read : Written → Option α)
    (default : α) : Option α :=
  match entries.lookup name with
  | none => some default
  | some written => read written

/-- The value of a key that has no default. -/
def required (entries : List (String × Written)) (name : String) (read : Written → Option α) :
    Option α :=
  (entries.lookup name).bind read

def below (limit : Nat) (written : Written) : Option Nat := do
  let n ← format.natural? written
  if n < limit then some n else none

def byte? (written : Written) : Option UInt8 := (format.below UInt8.size written).map UInt8.ofNat

def word32? (written : Written) : Option UInt32 :=
  (format.below UInt32.size written).map UInt32.ofNat

def word64? (written : Written) : Option UInt64 :=
  (format.below UInt64.size written).map UInt64.ofNat

end Format

namespace Parity

def name : Parity → String
  | none => "None"
  | odd => "Odd"
  | even => "Even"

def ofName? (name : String) : Option Parity := [none, odd, even].find? fun p => p.name == name

end Parity

namespace FlowControl

def name : FlowControl → String
  | none => "None"
  | software => "Software"
  | hardware => "Hardware"

def ofName? (name : String) : Option FlowControl :=
  [none, software, hardware].find? fun f => f.name == name

end FlowControl

namespace MaskPolicy

def name : MaskPolicy → String
  | masked => "Masked"
  | unmasked => "Unmasked"

def ofName? (name : String) : Option MaskPolicy :=
  [masked, unmasked].find? fun p => p.name == name

end MaskPolicy

namespace SerialSettings

def keys : List String :=
  ["port", "baud_rate", "data_bits", "parity", "stop_bits", "flow_control", "timeout_ms",
    "write_timeout_ms"]

def read? {Written : Type} (format : Format Written) (written : Written) :
    Option SerialSettings := do
  let entries ← format.section? keys written
  let default : SerialSettings := {}
  pure {
    port := ← Format.field entries "port" format.text? default.port
    baudRate := ← Format.field entries "baud_rate" format.word32? default.baudRate
    dataBits := ← Format.field entries "data_bits" format.byte? default.dataBits
    parity := ← Format.field entries "parity"
      (fun w => (format.choice? w).bind Parity.ofName?) default.parity
    stopBits := ← Format.field entries "stop_bits" format.byte? default.stopBits
    flowControl := ← Format.field entries "flow_control"
      (fun w => (format.choice? w).bind FlowControl.ofName?) default.flowControl
    timeoutMs := ← Format.field entries "timeout_ms" format.word64? default.timeoutMs
    writeTimeoutMs :=
      ← Format.field entries "write_timeout_ms" format.word64? default.writeTimeoutMs }

end SerialSettings

namespace TransportSettings

def keys : List String :=
  ["terminator", "command_delay_ms", "frame_delay_ms", "pause_every", "pause_delay_ms"]

def read? {Written : Type} (format : Format Written) (written : Written) :
    Option TransportSettings := do
  let entries ← format.section? keys written
  let default : TransportSettings := {}
  pure {
    terminator := ← Format.field entries "terminator" format.text? default.terminator
    commandDelayMs :=
      ← Format.field entries "command_delay_ms" format.word64? default.commandDelayMs
    frameDelayMs := ← Format.field entries "frame_delay_ms" format.word64? default.frameDelayMs
    pauseEvery := ← Format.field entries "pause_every" format.word64? default.pauseEvery
    pauseDelayMs := ← Format.field entries "pause_delay_ms" format.word64? default.pauseDelayMs }

end TransportSettings

namespace WidthSettings

def keys : List String := ["energy", "instantaneous", "scale"]

def read? {Written : Type} (format : Format Written) (written : Written) :
    Option WidthSettings := do
  let entries ← format.section? keys written
  let default : WidthSettings := {}
  pure {
    energy := ← Format.field entries "energy" format.word32? default.energy
    instantaneous := ← Format.field entries "instantaneous" format.word32? default.instantaneous
    scale := ← Format.field entries "scale" format.word32? default.scale }

end WidthSettings

namespace EncryptionSettings

def keys : List String := ["enabled", "key", "iv"]

/-- A key that is absent is taken as off or as empty. -/
def read? {Written : Type} (format : Format Written) (written : Written) :
    Option EncryptionSettings := do
  let entries ← format.section? keys written
  pure {
    enabled := ← Format.field entries "enabled" format.flag? false
    key := ← Format.field entries "key" format.text? ""
    iv := ← Format.field entries "iv" format.text? "" }

end EncryptionSettings

namespace PayloadSettings

def keys : List String :=
  ["masking", "mask_widths", "timestamp_truncate", "timestamp_separators", "chunk_length",
    "encryption"]

def read? {Written : Type} (format : Format Written) (written : Written) :
    Option PayloadSettings := do
  let entries ← format.section? keys written
  let default : PayloadSettings := {}
  pure {
    masking := ← Format.field entries "masking"
      (fun w => (format.choice? w).bind MaskPolicy.ofName?) default.masking
    maskWidths :=
      ← Format.field entries "mask_widths" (WidthSettings.read? format) default.maskWidths
    timestampTruncate := ← Format.field entries "timestamp_truncate" format.word64? 0
    timestampSeparators :=
      ← Format.field entries "timestamp_separators" format.text? default.timestampSeparators
    chunkLength := ← Format.field entries "chunk_length" format.word64? default.chunkLength
    encryption :=
      ← Format.field entries "encryption" (EncryptionSettings.read? format) default.encryption }

end PayloadSettings

namespace Definition

def keys : List String := ["marker", "register"]

/-- A definition has no defaults: both of its keys have to be there. -/
def read? {Written : Type} (format : Format Written) (written : Written) : Option Definition := do
  let entries ← format.section? keys written
  pure {
    marker := ← Format.required entries "marker" format.text?
    register := ← Format.required entries "register"
      (fun w => (format.choice? w).bind Register.ofName?) }

/-- A list of definitions. -/
def readAll? {Written : Type} (format : Format Written) (written : Written) :
    Option (List Definition) := do
  let items ← format.items? written
  items.mapM (read? format)

end Definition

namespace Settings

def keys : List String := ["log_file", "serial", "transport", "payload", "registers"]

def read? {Written : Type} (format : Format Written) (written : Written) : Option Settings := do
  let entries ← format.section? keys written
  let default : Settings := {}
  pure {
    logFile := ← Format.field entries "log_file" format.text? default.logFile
    serial := ← Format.field entries "serial" (SerialSettings.read? format) default.serial
    transport :=
      ← Format.field entries "transport" (TransportSettings.read? format) default.transport
    payload := ← Format.field entries "payload" (PayloadSettings.read? format) default.payload
    registers :=
      ← Format.field entries "registers" (Definition.readAll? format) default.registers }

end Settings

end MeterUplink
