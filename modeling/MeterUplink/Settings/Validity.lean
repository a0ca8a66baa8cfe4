import MeterUplink.Cipher.Key
import MeterUplink.Files
import MeterUplink.Settings

namespace MeterUplink

/-! Which settings a run accepts, and what is said about the others. -/

/-- A setting outside its range, or key material that is none. -/
inductive InvalidSetting where
  | chunkLength
  | maskWidth (name : String) (width : UInt32)
  | dataBits (bits : UInt8)
  | stopBits (bits : UInt8)
  | key (error : Cipher.KeyError)
deriving Repr, DecidableEq

def InvalidSetting.message : InvalidSetting → String
  | chunkLength => "payload.chunk_length must be at least 1"
  | maskWidth name width => s!"mask width {name} must be within 1..=64, got {width}"
  | dataBits bits => s!"serial.data_bits must be within 5..=8, got {bits}"
  | stopBits bits => s!"serial.stop_bits must be 1 or 2, got {bits}"
  | key error => error.message

/-- Why a file of settings cannot be read. -/
inductive ReadFault where
  | file (error : FileError)
  | notText
deriving Repr, DecidableEq

def ReadFault.message : ReadFault → String
  | file error => error.message
  | notText => "stream did not contain valid UTF-8"

inductive SettingsError where
  | notFound
  | unreadable (path : String) (fault : ReadFault)
  | malformed
  | registers (error : TableError)
  | invalid (setting : InvalidSetting)
deriving Repr, DecidableEq

def SettingsError.message : SettingsError → String
  | notFound => "Unable to find the config on config/m2s.yaml or m2s.yaml"
  | unreadable path fault => s!"Unable to read config file {path}: {fault.message}"
  | malformed => "Unable to parse config file: not a document of settings"
  | registers error => s!"Invalid register table: {error.message}"
  | invalid setting => s!"Invalid configuration: {setting.message}"

namespace WidthSettings

def named (widths : WidthSettings) : List (String × UInt32) :=
  [("energy", widths.energy), ("instantaneous", widths.instantaneous), ("scale", widths.scale)]

/-- The first width outside of its range. -/
def outOfRange? (widths : WidthSettings) : Option (String × UInt32) :=
  widths.named.find? fun entry => entry.2 < 1 || 64 < entry.2

end WidthSettings

/-- The ranges of the numbers, looked at in a fixed order. -/
def Settings.checkRanges (settings : Settings) : Except InvalidSetting Unit :=
  if settings.payload.chunkLength = 0 then .error .chunkLength
  else
    match settings.payload.maskWidths.outOfRange? with
    | some (name, width) => .error (.maskWidth name width)
    | none =>
      if settings.serial.dataBits < 5 ∨ 8 < settings.serial.dataBits then
        .error (.dataBits settings.serial.dataBits)
      else if settings.serial.stopBits ≠ 1 ∧ settings.serial.stopBits ≠ 2 then
        .error (.stopBits settings.serial.stopBits)
      else .ok ()

/-- The cipher key that the settings ask for. -/
def EncryptionSettings.cipherKey (encryption : EncryptionSettings) :
    Except Cipher.KeyError (Option Cipher.CipherKey) :=
  if encryption.enabled then (Cipher.CipherKey.ofHex encryption.key encryption.iv).map some
  else .ok none

end MeterUplink
