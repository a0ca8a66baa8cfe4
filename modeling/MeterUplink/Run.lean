import MeterUplink.Modem.Transmission
import MeterUplink.Settings.Yaml
import MeterUplink.Text.Utf8
import MeterUplink.Uplink

namespace MeterUplink

/-! A run: settings and log are read from files, the uplink is prepared, and unless the run is a
dry one its chunks are sent over the port. The port is not touched before the uplink is ready. -/

inductive TransportError where
  | portUnavailable (port reason : String)
  | transmission (error : Modem.TransmissionError)
deriving Repr, DecidableEq

def TransportError.message : TransportError → String
  | portUnavailable port reason => s!"Serial port {port} unavailable: {reason}"
  | transmission error => error.message

inductive RunError where
  | settings (error : SettingsError)
  | logUnreadable (path : String) (error : FileError)
  | uplink (error : UplinkError)
  | transport (error : TransportError)
deriving Repr, DecidableEq

def RunError.message : RunError → String
  | settings error => error.message
  | logUnreadable path error => s!"Unable to read log file {path}: {error.message}"
  | uplink error => error.message
  | transport error => s!"Transport failed: {error.message}"

namespace Holder

/-- The files of settings that are looked for, in this order. -/
def settingsPaths : List String := ["config/m2s.yaml", "m2s.yaml"]

/-- Accepts the settings of a YAML text. -/
def ofYaml (text : String) : Journaled SettingsError Holder :=
  match Settings.ofYaml? text with
  | some settings => ofSettings settings
  | none => .fail .malformed

/-- The text of a file, which has to be UTF-8 throughout. -/
def readText (files : Files) (path : String) : Except SettingsError String :=
  match files.read path with
  | .error error => .error (.unreadable path (.file error))
  | .ok bytes =>
    match Text.decodeUtf8? bytes with
    | some text => .ok (String.ofList text)
    | none => .error (.unreadable path .notText)

/-- The path that was given, or else the first of the usual ones that is a file. -/
def findSettings (files : Files) (path? : Option String) : Except SettingsError String :=
  match path? with
  | some path => .ok path
  | none =>
    match settingsPaths.find? files.isFile with
    | some path => .ok path
    | none => .error .notFound

def load (files : Files) (path? : Option String) : Journaled SettingsError Holder := do
  let path ← Journaled.ofExcept (findSettings files path?)
  let text ← Journaled.ofExcept (readText files path)
  let holder ← ofYaml text
  Journaled.emit .info .settings s!"Configuration loaded from {path}"
  pure (holder.setBasePath (Path.parent path))

end Holder

/-- How a port is opened: what it will do, or why there is none. -/
abbrev PortOpening := SerialSettings → Except String Modem.Port

/-- Opening a port where no file is a serial device. Where the path leads tells why there is no
port. -/
def Files.noPort (files : Files) : PortOpening := fun serial =>
  match files.read serial.port with
  | .ok _ => .error "Not a typewriter"
  | .error .unusableName => .error "Invalid argument"
  | .error error => .error error.reason

/-- What a run did with the port. -/
inductive PortUse where
  | untouched
  | refused
  | opened (after : Modem.Port) (events : List Modem.PortEvent)
deriving Repr, DecidableEq

structure RunSummary where
  uplink : Uplink
  framesSent : Nat

structure RunReport where
  outcome : Except RunError RunSummary
  records : List Record
  portUse : PortUse

namespace Run

/-- The text of the log. Bytes that are no UTF-8 are replaced, since markers are ASCII. -/
def readLog (files : Files) (holder : Holder) : Except RunError String :=
  match files.read holder.logFilePath with
  | .error error => .error (.logUnreadable holder.logFilePath error)
  | .ok bytes => .ok (String.ofList (Text.decodeUtf8 bytes))

/-- All that comes before the port. -/
def prepare (files : Files) (holder : Holder) : Journaled RunError Uplink := do
  let log ← Journaled.ofExcept (readLog files holder)
  (Uplink.prepare holder log).mapError .uplink

/-- Opens the port and sends the chunks of an uplink. -/
def send (openPort : PortOpening) (holder : Holder) (uplink : Uplink) : RunReport :=
  let serial := holder.settings.serial
  let opening : Record :=
    ⟨.debug, .deviceDriver, "opening serial port in synchronous blocking mode"⟩
  match openPort serial with
  | .error reason =>
    ⟨.error (.transport (.portUnavailable serial.port reason)), [opening], .refused⟩
  | .ok port =>
    let opened : Record :=
      ⟨.info, .serialLine, s!"Serial port {serial.port} open at {serial.baudRate.toNat} baud"⟩
    let timing := Modem.Timing.ofSettings serial holder.settings.transport
    let done := Modem.transmit timing uplink.chunks port
    let records := opening :: opened :: done.records
    let portUse := PortUse.opened done.port done.events
    match done.outcome with
    | .error error => ⟨.error (.transport (.transmission error)), records, portUse⟩
    | .ok frames =>
      let counted : Record := ⟨.info, .run, s!"{frames} frames sent to {serial.port}"⟩
      ⟨.ok ⟨uplink, frames⟩, records ++ [counted], portUse⟩

/-- What follows once the uplink is ready. -/
def deliver (openPort : PortOpening) (dryRun : Bool) (holder : Holder) (uplink : Uplink) :
    RunReport :=
  if dryRun then
    let note : Record := ⟨.info, .run, s!"Dry run, {uplink.chunks.count} chunks not sent"⟩
    ⟨.ok ⟨uplink, 0⟩, [note], .untouched⟩
  else if uplink.chunks.isEmpty then
    ⟨.ok ⟨uplink, 0⟩, [⟨.warn, .run, "Empty payload, nothing to send"⟩], .untouched⟩
  else send openPort holder uplink

end Run

/-- One complete run. -/
def run (files : Files) (openPort : PortOpening) (dryRun : Bool) (holder : Holder) : RunReport :=
  let prepared := Run.prepare files holder
  match prepared.outcome with
  | .error error => ⟨.error error, prepared.records, .untouched⟩
  | .ok uplink =>
    let report := Run.deliver openPort dryRun holder uplink
    { report with records := prepared.records ++ report.records }

end MeterUplink
