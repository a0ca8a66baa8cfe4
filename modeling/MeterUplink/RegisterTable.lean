import MeterUplink.Journal
import MeterUplink.Marker
import MeterUplink.Register
import MeterUplink.Text.Search

namespace MeterUplink

/-! Tables of registers: which marker in a log line announces which register. -/

structure Definition where
  marker : String
  register : Register
deriving Repr, DecidableEq

structure RegisterTable where
  definitions : List Definition
deriving Repr, DecidableEq

/-- Why a list of definitions is no table. An invalid marker is kept as it was given, a
repeated one in its canonical form. -/
inductive TableError where
  | invalidMarker (marker : String)
  | duplicateMarker (marker : String)
  | duplicateRegister (register : Register)
  | missingRegister (register : Register)
deriving Repr, DecidableEq

def TableError.message : TableError → String
  | .invalidMarker marker => s!"Invalid OBIS marker '{marker}'"
  | .duplicateMarker marker => s!"OBIS marker '{marker}' is mapped more than once"
  | .duplicateRegister register => s!"Register {register.name} is mapped more than once"
  | .missingRegister register => s!"Register {register.name} has no OBIS marker"

namespace RegisterTable

/-- The definition in canonical form, if it can stand after those in `earlier`. -/
def accept (earlier : List Definition) (definition : Definition) :
    Except TableError Definition :=
  let marker := Marker.normalize definition.marker
  if !Marker.isValid marker then .error (.invalidMarker definition.marker)
  else if earlier.any (·.marker == marker) then .error (.duplicateMarker marker)
  else if earlier.any (·.register == definition.register) then
    .error (.duplicateRegister definition.register)
  else .ok ⟨marker, definition.register⟩

/-- Accepts definitions one after another, behind those in `earlier`. -/
def acceptAll (earlier : List Definition) : List Definition → Except TableError (List Definition)
  | [] => .ok earlier
  | definition :: rest => do
    let accepted ← accept earlier definition
    acceptAll (earlier ++ [accepted]) rest

/-- The first register, in the order of all registers, that no definition maps. -/
def missing? (definitions : List Definition) : Option Register :=
  Register.all.find? fun register => !definitions.any (·.register == register)

/-- The table of a complete and unambiguous list of definitions. -/
def ofDefinitions? (definitions : List Definition) : Except TableError RegisterTable := do
  let accepted ← acceptAll [] definitions
  match missing? accepted with
  | some register => .error (.missingRegister register)
  | none => .ok ⟨accepted⟩

def build (definitions : List Definition) : Journaled TableError RegisterTable := do
  let table ← Journaled.ofExcept (ofDefinitions? definitions)
  Journaled.emit .debug .registers
    s!"Register table with {table.definitions.length} markers ready"
  pure table

/-- The first definition whose marker occurs in the line. -/
def match? (table : RegisterTable) (line : String) : Option Definition :=
  table.definitions.find? fun definition =>
    Text.occursIn definition.marker.toList line.toList

def markerFor? (table : RegisterTable) (register : Register) : Option String :=
  (table.definitions.find? fun definition => definition.register == register).map (·.marker)

def standardDefinitions : List Definition :=
  [⟨"01 01 01 08 00 FF", .activeEnergyImported⟩,
    ⟨"00 00 01 00 00 FF", .timestamp⟩,
    ⟨"01 01 03 08 00 FF", .reactiveEnergyImported⟩,
    ⟨"01 01 02 08 00 FF", .activeEnergyExported⟩,
    ⟨"01 01 04 08 00 FF", .reactiveEnergyExported⟩,
    ⟨"01 01 0D 07 00 FF", .powerFactor⟩,
    ⟨"01 01 0E 07 00 FF", .frequency⟩,
    ⟨"01 01 20 07 00 FF", .voltageL1⟩,
    ⟨"01 01 34 07 00 FF", .voltageL2⟩,
    ⟨"01 01 48 07 00 FF", .voltageL3⟩,
    ⟨"01 01 1F 07 00 FF", .currentL1⟩,
    ⟨"01 01 33 07 00 FF", .currentL2⟩,
    ⟨"01 01 47 07 00 FF", .currentL3⟩]

/-- The table of the standard definitions, which are canonical already. -/
def standard : RegisterTable := ⟨standardDefinitions⟩

end RegisterTable

end MeterUplink
