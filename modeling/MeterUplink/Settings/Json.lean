import MeterUplink.Json
import MeterUplink.Settings.Decoding

namespace MeterUplink

/-! Settings as JSON values. A section is written as an object, and may be read from a list of
its first values in the order of its keys; null is never a value. -/

namespace Json

def text? : Json → Option String
  | text value => some value
  | _ => none

def natural? : Json → Option Nat
  | integer (.ofNat n) => some n
  | _ => none

def flag? : Json → Option Bool
  | bool value => some value
  | _ => none

/-- An alternative is its name, or an object of that one name with null. -/
def choice? : Json → Option String
  | text name => some name
  | object [(name, null)] => some name
  | _ => none

def entries? (names : List String) : Json → Option (List (String × Json))
  | object members => some members
  | list items => if items.length ≤ names.length then some (names.zip items) else none
  | _ => none

def items? : Json → Option (List Json)
  | list items => some items
  | _ => none

def format : Format Json where
  text? := text?
  natural? := natural?
  flag? := flag?
  choice? := choice?
  entries? := entries?
  items? := items?

end Json

def WidthSettings.toJson (widths : WidthSettings) : Json :=
  .object [("energy", .integer widths.energy.toNat),
    ("instantaneous", .integer widths.instantaneous.toNat),
    ("scale", .integer widths.scale.toNat)]

def EncryptionSettings.toJson (encryption : EncryptionSettings) : Json :=
  .object [("enabled", .bool encryption.enabled), ("key", .text encryption.key),
    ("iv", .text encryption.iv)]

def PayloadSettings.toJson (payload : PayloadSettings) : Json :=
  .object [("masking", .text payload.masking.name),
    ("mask_widths", payload.maskWidths.toJson),
    ("timestamp_truncate", .integer payload.timestampTruncate.toNat),
    ("timestamp_separators", .text payload.timestampSeparators),
    ("chunk_length", .integer payload.chunkLength.toNat),
    ("encryption", payload.encryption.toJson)]

def TransportSettings.toJson (transport : TransportSettings) : Json :=
  .object [("terminator", .text transport.terminator),
    ("command_delay_ms", .integer transport.commandDelayMs.toNat),
    ("frame_delay_ms", .integer transport.frameDelayMs.toNat),
    ("pause_every", .integer transport.pauseEvery.toNat),
    ("pause_delay_ms", .integer transport.pauseDelayMs.toNat)]

def SerialSettings.toJson (serial : SerialSettings) : Json :=
  .object [("port", .text serial.port),
    ("baud_rate", .integer serial.baudRate.toNat),
    ("data_bits", .integer serial.dataBits.toNat),
    ("parity", .text serial.parity.name),
    ("stop_bits", .integer serial.stopBits.toNat),
    ("flow_control", .text serial.flowControl.name),
    ("timeout_ms", .integer serial.timeoutMs.toNat),
    ("write_timeout_ms", .integer serial.writeTimeoutMs.toNat)]

def Definition.toJson (definition : Definition) : Json :=
  .object [("marker", .text definition.marker), ("register", .text definition.register.name)]

def Settings.toJson (settings : Settings) : Json :=
  .object [("log_file", .text settings.logFile),
    ("serial", settings.serial.toJson),
    ("transport", settings.transport.toJson),
    ("payload", settings.payload.toJson),
    ("registers", .list (settings.registers.map Definition.toJson))]

end MeterUplink
