import MeterUplink.Reading
import MeterUplink.Text.Lines

namespace MeterUplink.ReadingSet

/-! The readings of a log. Every definition of the table has to be matched by exactly one line,
so the order of the lines does not matter; lines without a marker are skipped. -/

/-- Adds the lines that announce a register to those already found. -/
def gather (table : RegisterTable) (found : ByRegister RegisterLine) :
    List String → Journaled ExtractError (ByRegister RegisterLine)
  | [] => pure found
  | line :: rest =>
    match table.match? line with
    | none => gather table found rest
    | some definition =>
      if found.contains definition.register then
        .fail (.duplicateRegister definition.marker definition.register)
      else do
        let parsed ← RegisterLine.parse line definition
        gather table (found.insert definition.register parsed) rest

/-- The first definition of the table that no line was found for. -/
def unmatched? (table : RegisterTable) (found : ByRegister RegisterLine) : Option Definition :=
  table.definitions.find? fun definition => !found.contains definition.register

/-- Decodes lines one after another. -/
def decodeLines : List (Register × RegisterLine) →
    Journaled ExtractError (List (Register × Reading))
  | [] => pure []
  | (register, line) :: rest => do
    let reading ← Journaled.ofExcept line.reading
    Journaled.emit .debug .extraction
      s!"{register.name}: magnitude {reading.magnitude.render} scale {reading.scale.render}"
    let readings ← decodeLines rest
    pure ((register, reading) :: readings)

/-- The lines of the numeric registers, in the order of all registers. -/
def numericLines (found : ByRegister RegisterLine) : List (Register × RegisterLine) :=
  found.entries.filter fun entry => entry.1 ≠ .timestamp

/-- The time field of the timestamp line, as it is written. -/
def timestampOf (found : ByRegister RegisterLine) : String :=
  ((found.get? .timestamp).bind (·.field? RegisterLine.magnitudeField)).getD ""

def ofLines (table : RegisterTable) (lines : List String) :
    Journaled ExtractError ReadingSet := do
  let found ← gather table ∅ lines
  match unmatched? table found with
  | some definition => .fail (.missingRegister definition.marker definition.register)
  | none =>
    let readings ← decodeLines (numericLines found)
    let timestamp := timestampOf found
    Journaled.emit .info .extraction
      s!"Extracted {readings.length} registers, timestamp '{timestamp}'"
    pure ⟨timestamp, ByRegister.ofList readings, found⟩

/-- The readings of the lines of a text. -/
def ofText (table : RegisterTable) (text : String) : Journaled ExtractError ReadingSet :=
  ofLines table ((Text.lines text.toList).map String.ofList)

end MeterUplink.ReadingSet
