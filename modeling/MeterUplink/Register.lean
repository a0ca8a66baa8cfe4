namespace MeterUplink

/-! The registers that a meter's log carries, one for each quantity. -/

inductive Register where
  | activeEnergyImported
  | timestamp
  | reactiveEnergyImported
  | activeEnergyExported
  | reactiveEnergyExported
  | powerFactor
  | frequency
  | voltageL1
  | voltageL2
  | voltageL3
  | currentL1
  | currentL2
  | currentL3
deriving Repr, DecidableEq

inductive RegisterClass where
  | energy
  | instantaneous
  | timestamp
deriving Repr, DecidableEq

namespace Register

/-- Every register, in the order in which sets of readings are kept. -/
def all : List Register :=
  [activeEnergyImported, timestamp, reactiveEnergyImported, activeEnergyExported,
    reactiveEnergyExported, powerFactor, frequency, voltageL1, voltageL2, voltageL3,
    currentL1, currentL2, currentL3]

theorem mem_all (register : Register) : register ∈ all := by
  cases register <;> decide

/-- The numeric registers in the order in which they follow the timestamp in a payload. -/
def payloadOrder : List Register :=
  [activeEnergyImported, reactiveEnergyImported, activeEnergyExported, reactiveEnergyExported,
    powerFactor, frequency, voltageL1, voltageL2, voltageL3, currentL1, currentL2, currentL3]

theorem mem_payloadOrder_iff {register : Register} :
    register ∈ payloadOrder ↔ register ≠ timestamp := by
  cases register <;> decide

def registerClass : Register → RegisterClass
  | activeEnergyImported | reactiveEnergyImported => .energy
  | activeEnergyExported | reactiveEnergyExported => .energy
  | timestamp => .timestamp
  | _ => .instantaneous

/-- The name under which settings, reports and messages know the register. -/
def name : Register → String
  | activeEnergyImported => "active_energy_imported"
  | timestamp => "timestamp"
  | reactiveEnergyImported => "reactive_energy_imported"
  | activeEnergyExported => "active_energy_exported"
  | reactiveEnergyExported => "reactive_energy_exported"
  | powerFactor => "power_factor"
  | frequency => "frequency"
  | voltageL1 => "voltage_l1"
  | voltageL2 => "voltage_l2"
  | voltageL3 => "voltage_l3"
  | currentL1 => "current_l1"
  | currentL2 => "current_l2"
  | currentL3 => "current_l3"

def ofName? (name : String) : Option Register := all.find? fun register => register.name == name

end Register

end MeterUplink
