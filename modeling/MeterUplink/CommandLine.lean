import MeterUplink.CommandLine.Arguments
import MeterUplink.CommandLine.LogFilter
import MeterUplink.Reading.Report
import MeterUplink.Run
import MeterUplink.Text.ControlSequence

namespace MeterUplink.CommandLine

/-! The program as a function of its arguments, its environment, the files and the port. -/

structure Environment where
  /-- The path of the settings. -/
  settingsPath : Option String := none
  /-- The filter of the journal, and the one that counts if there is no such filter. -/
  logFilter : Option String := none
  logLevel : Option String := none
deriving Repr, DecidableEq

/-- What the program leaves: an exit status, the standard output and the standard error. -/
structure Effect where
  status : Nat
  output : String := ""
  errors : String := ""
deriving Repr, DecidableEq

/-- A request that was understood, or the refusal of the arguments. -/
def requestOf? (environment : Environment) (arguments : List String) : Option Request := do
  match ← request? {} arguments with
  | .start arguments =>
    let arguments ← arguments.withDefaultPath? environment.settingsPath
    some (.start arguments)
  | other => some other

def filterOf (environment : Environment) : LogFilter × List String :=
  LogFilter.ofText ((environment.logFilter.orElse fun _ => environment.logLevel).getD "info")

/-- The settings in their files, as the arguments change them. A log file that is given starts at
the working directory. -/
def loadHolder (files : Files) (arguments : Arguments) : Journaled SettingsError Holder := do
  let loaded ← Holder.load files arguments.settingsPath
  let located :=
    match arguments.logFile with
    | some logFile => (loaded.setLogFile logFile).setBasePath ""
    | none => loaded
  pure (match arguments.port with
    | some port => located.setPort port
    | none => located)

/-- What a dry run prints: the report, the payload in both forms, and the commands. -/
def dryRunText (uplink : Uplink) : String :=
  let ciphertext :=
    match uplink.ciphertext with
    | some ciphertext => s!"ciphertext: {ciphertext.text}\n"
    | none => ""
  let commands := uplink.chunks.texts.map fun chunk =>
    (Modem.Command.sendFrame chunk).text ++ "\n"
  uplink.readings.reportText ++ "\n" ++ s!"payload: {uplink.payload.text}\n" ++ ciphertext ++
    String.join commands

/-- The run that the arguments ask for. -/
def start (files : Files) (openPort : PortOpening) (arguments : Arguments) : RunReport :=
  let loaded := loadHolder files arguments
  match loaded.outcome with
  | .error error => ⟨.error (.settings error), loaded.records, .untouched⟩
  | .ok holder =>
    let report := run files openPort arguments.dryRun holder
    { report with records := loaded.records ++ report.records }

/-- Texts on lines of their own. -/
def asLines (texts : List String) : String := String.join (texts.map (· ++ "\n"))

/-- The records that the filter shows, as far as their lines are plain text. -/
def journalText (filter : LogFilter) (records : List Record) : String :=
  String.join ((records.filter filter.shows).map fun record =>
    Text.plainText (recordLine record ++ "\n"))

/-- A failure is a record, or a line of its own where the journal shows no errors. -/
def effectOf (filter : LogFilter) (warnings : List String) (dryRun : Bool)
    (report : RunReport) : Effect :=
  let errors (records : List Record) : String := asLines warnings ++ journalText filter records
  match report.outcome with
  | .ok summary =>
    let finished : Record :=
      ⟨.info, .application, s!"Run finished, {summary.framesSent} frames sent"⟩
    ⟨0, if dryRun then dryRunText summary.uplink else "", errors (report.records ++ [finished])⟩
  | .error error =>
    if filter.enables .error .application then
      ⟨1, "", errors (report.records ++ [⟨.error, .application, error.message⟩])⟩
    else ⟨1, "", errors report.records ++ asLines [s!"Error: {error.message}"]⟩

def usageHint : String := "error: unexpected arguments, for more information try '--help'"

/-- The whole program. Arguments that are not understood end it with status 2. -/
def program (files : Files) (openPort : PortOpening) (environment : Environment)
    (arguments : List String) : Effect :=
  let (filter, warnings) := filterOf environment
  match requestOf? environment arguments with
  | none => ⟨2, "", asLines (warnings ++ [usageHint])⟩
  | some .help => ⟨0, Text.plainText (helpText environment.settingsPath), asLines warnings⟩
  | some .version => ⟨0, versionText, asLines warnings⟩
  | some (.start arguments) =>
    effectOf filter warnings arguments.dryRun (start files openPort arguments)

end MeterUplink.CommandLine
