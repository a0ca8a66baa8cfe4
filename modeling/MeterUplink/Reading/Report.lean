import MeterUplink.Json
import MeterUplink.Reading

namespace MeterUplink

/-! The report of a set of readings, for display. -/

def Reading.report (reading : Reading) : Json :=
  .object [("magnitude", .integer reading.magnitude.value), ("scale", .integer reading.scale.value)]

/-- Timestamp first, then the readings in the order of all registers. -/
def ReadingSet.report (readings : ReadingSet) : Json :=
  .object [("timestamp", .text readings.timestamp),
    ("readings", .object (readings.readings.entries.map fun entry =>
      (entry.1.name, entry.2.report)))]

def ReadingSet.reportText (readings : ReadingSet) : String := readings.report.pretty 0

end MeterUplink
