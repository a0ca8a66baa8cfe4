import MeterUplink.Files.Path
import MeterUplink.Settings.Validity

namespace MeterUplink

/-! A holder keeps accepted settings together with what was derived from them. The settings and
the base path may be changed afterwards; table and cipher key stay as they were derived. -/

structure Holder where
  settings : Settings
  basePath : String
  table : RegisterTable
  cipherKey : Option Cipher.CipherKey
deriving DecidableEq

namespace Holder

/-- Accepts settings: ranges first, then the table of registers, then the key material. -/
def ofSettings (settings : Settings) : Journaled SettingsError Holder := do
  Journaled.ofExcept (settings.checkRanges.mapError .invalid)
  let table ← (RegisterTable.build settings.registers).mapError .registers
  let cipherKey ← Journaled.ofExcept
    (settings.payload.encryption.cipherKey.mapError fun error => .invalid (.key error))
  let state := if cipherKey.isSome then "on" else "off"
  Journaled.emit .debug .settings s!"Configuration validated, encryption {state}"
  pure ⟨settings, "", table, cipherKey⟩

/-- The path of the log; a relative one starts at the directory of the settings. -/
def logFilePath (holder : Holder) : String := Path.join holder.basePath holder.settings.logFile

def setLogFile (holder : Holder) (logFile : String) : Holder :=
  { holder with settings := { holder.settings with logFile } }

def setPort (holder : Holder) (port : String) : Holder :=
  { holder with
    settings := { holder.settings with serial := { holder.settings.serial with port } } }

def setBasePath (holder : Holder) (basePath : String) : Holder := { holder with basePath }

def setPayload (holder : Holder) (payload : PayloadSettings) : Holder :=
  { holder with settings := { holder.settings with payload } }

def setRegisters (holder : Holder) (registers : List Definition) : Holder :=
  { holder with settings := { holder.settings with registers } }

/-- Accepts the present settings anew. A holder whose settings are refused stays as it is. -/
def revalidate (holder : Holder) : Journaled SettingsError Holder := ofSettings holder.settings

end Holder

end MeterUplink
