import MeterUplink.ByRegister
import MeterUplink.Numeral.Signed128
import MeterUplink.RegisterTable

namespace MeterUplink

/-! What one snapshot of a meter's log says: the line found for each register, and the readings
decoded from those lines. -/

/-- A log line that announces a register, cut at its commas. -/
structure RegisterLine where
  marker : String
  register : Register
  fields : List String
deriving Repr, DecidableEq

structure Reading where
  magnitude : Signed128
  scale : Signed128
deriving Repr, DecidableEq

/-- The decoded values of one snapshot, with the lines that they come from. -/
structure ReadingSet where
  timestamp : String
  readings : ByRegister Reading
  lines : ByRegister RegisterLine

inductive ExtractError where
  | missingRegister (marker : String) (register : Register)
  | malformedLine (line marker : String)
  | duplicateRegister (marker : String) (register : Register)
  | invalidNumber (marker : String) (field : Nat) (value : String)
deriving Repr, DecidableEq

def ExtractError.message : ExtractError → String
  | .missingRegister marker register =>
    s!"Register {register.name} (marker {marker}) not found in log"
  | .malformedLine line marker =>
    s!"Line for marker {marker} has fewer than 5 fields: '{line}'"
  | .duplicateRegister marker register =>
    s!"Register {register.name} (marker {marker}) appears more than once in log"
  | .invalidNumber marker field value =>
    s!"Field {field} of marker {marker} is not an integer: '{value}'"

namespace RegisterLine

/-- The number of fields that a line has to have. -/
def leastFields : Nat := 5

/-- The place of the magnitude, or of the time in a timestamp line. -/
def magnitudeField : Nat := 2

def scaleField : Nat := 4

/-- The texts between the commas of a line. -/
def cut (line : String) : List String := (line.toList.splitOn ',').map String.ofList

def ofLine? (line : String) (definition : Definition) : Except ExtractError RegisterLine :=
  let fields := cut line
  if fields.length < leastFields then .error (.malformedLine line definition.marker)
  else .ok ⟨definition.marker, definition.register, fields⟩

/-- What the journal says about the line of a definition. -/
def announcement (line : RegisterLine) : String :=
  let description := (Marker.description? line.marker).getD "custom marker"
  let reduced := (Marker.reduced? line.marker).getD line.marker
  s!"Matched {line.register.name} ({description}) on {reduced} with {line.fields.length} fields"

def parse (line : String) (definition : Definition) : Journaled ExtractError RegisterLine := do
  let parsed ← Journaled.ofExcept (ofLine? line definition)
  Journaled.emit .debug .registerLine parsed.announcement
  pure parsed

def field? (line : RegisterLine) (index : Nat) : Option String := line.fields[index]?

/-- The integer in a field; a field that is not there counts as an empty one. -/
def integer (line : RegisterLine) (index : Nat) : Except ExtractError Signed128 :=
  let raw := (line.field? index).getD ""
  match Signed128.ofText? raw with
  | some n => .ok n
  | none => .error (.invalidNumber line.marker index raw)

/-- Magnitude and scale, the magnitude looked at first. -/
def reading (line : RegisterLine) : Except ExtractError Reading := do
  let magnitude ← line.integer magnitudeField
  let scale ← line.integer scaleField
  pure ⟨magnitude, scale⟩

end RegisterLine

end MeterUplink
