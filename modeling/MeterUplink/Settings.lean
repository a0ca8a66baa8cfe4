import MeterUplink.RegisterTable

namespace MeterUplink

/-! The settings of the program. Every part of them has a default. -/

inductive Parity where
  | none
  | odd
  | even
deriving Repr, DecidableEq

inductive FlowControl where
  | none
  | software
  | hardware
deriving Repr, DecidableEq

structure SerialSettings where
  port : String := "/dev/ttyUSB0"
  baudRate : UInt32 := 9600
  dataBits : UInt8 := 8
  parity : Parity := .none
  stopBits : UInt8 := 1
  flowControl : FlowControl := .none
  timeoutMs : UInt64 := 1000
  writeTimeoutMs : UInt64 := 2000
deriving Repr, DecidableEq

/-- The pace of a session: a delay after each of the commands before a frame, one between
frames, and a pause after every `pauseEvery` frames unless that is zero. -/
structure TransportSettings where
  terminator : String := "\r"
  commandDelayMs : UInt64 := 1000
  frameDelayMs : UInt64 := 10000
  pauseEvery : UInt64 := 2
  pauseDelayMs : UInt64 := 20000
deriving Repr, DecidableEq

inductive MaskPolicy where
  | masked
  | unmasked
deriving Repr, DecidableEq

/-- How many bits of a magnitude are sent, by the class of its register, and how many of a
scale. -/
structure WidthSettings where
  energy : UInt32 := 32
  instantaneous : UInt32 := 16
  scale : UInt32 := 8
deriving Repr, DecidableEq

/-- Key and initialization vector are written in hexadecimal digits. -/
structure EncryptionSettings where
  enabled : Bool := false
  key : String := ""
  iv : String := ""
deriving Repr, DecidableEq

structure PayloadSettings where
  masking : MaskPolicy := .masked
  maskWidths : WidthSettings := {}
  timestampTruncate : UInt64 := 0
  timestampSeparators : String := ":"
  chunkLength : UInt64 := 24
  encryption : EncryptionSettings := {}
deriving Repr, DecidableEq

structure Settings where
  logFile : String := "log.txt"
  serial : SerialSettings := {}
  transport : TransportSettings := {}
  payload : PayloadSettings := {}
  registers : List Definition := RegisterTable.standardDefinitions
deriving Repr, DecidableEq

end MeterUplink
