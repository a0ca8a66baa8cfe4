import MeterUplink.Proofs.ByRegister
import MeterUplink.Proofs.Numeral.Decimal
import MeterUplink.Proofs.Reading.Scan

namespace MeterUplink

/-! The numbers in the fields of the lines that were found. -/

namespace RegisterLine

variable {line : RegisterLine} {index : Nat} {n : Signed128}

theorem integer_eq_ok_iff_isRead :
    line.integer index = .ok n ↔ Signed128.IsRead ((line.field? index).getD "") n := by
  rw [integer, ← Signed128.ofText?_eq_some_iff]
  cases Signed128.ofText? ((line.field? index).getD "") with
  | none => simp
  | some m => simp

theorem integer_eq_error_iff {error : ExtractError} :
    line.integer index = .error error ↔
      error = .invalidNumber line.marker index ((line.field? index).getD "") ∧
        ∀ n, ¬ Signed128.IsRead ((line.field? index).getD "") n := by
  simp only [integer, ← Signed128.ofText?_eq_some_iff]
  cases Signed128.ofText? ((line.field? index).getD "") with
  | none => simp [eq_comm]
  | some m => simp

theorem integer_eq_ok_iff :
    line.integer index = .ok n ↔
      ∃ raw, line.field? index = some raw ∧ Signed128.IsRead raw n := by
  rw [integer_eq_ok_iff_isRead]
  cases line.field? index with
  | none =>
      have unread : ¬ Signed128.IsRead "" n := by
        rw [← Signed128.ofText?_eq_some_iff]
        exact nofun
      simp [unread]
  | some raw => simp

theorem integer_of_not_isRead {raw : String} (stored : line.field? index = some raw)
    (refused : ¬ ∃ n, Signed128.IsRead raw n) :
    line.integer index = .error (.invalidNumber line.marker index raw) := by
  rw [integer_eq_error_iff, stored]
  exact ⟨rfl, not_exists.mp refused⟩

theorem reading_eq_ok_iff {line : RegisterLine} {reading : Reading} :
    line.reading = .ok reading ↔
      line.integer 2 = .ok reading.magnitude ∧ line.integer 4 = .ok reading.scale := by
  rw [RegisterLine.reading, bind_eq_ok_iff]
  constructor
  · rintro ⟨magnitude, first, rest⟩
    obtain ⟨scale, second, rest⟩ := bind_eq_ok_iff.mp rest
    cases rest
    exact ⟨first, second⟩
  · rintro ⟨first, second⟩
    exact ⟨_, first, bind_eq_ok_iff.mpr ⟨_, second, rfl⟩⟩

theorem reading_of_magnitude_error {line : RegisterLine} {error : ExtractError}
    (refused : line.integer 2 = .error error) : line.reading = .error error := by
  have first : line.integer magnitudeField = .error error := refused
  rw [RegisterLine.reading, first]
  rfl

theorem reading_of_scale_error {line : RegisterLine} {magnitude : Signed128}
    {error : ExtractError} (read : line.integer 2 = .ok magnitude)
    (refused : line.integer 4 = .error error) : line.reading = .error error := by
  have first : line.integer magnitudeField = .ok magnitude := read
  have second : line.integer scaleField = .error error := refused
  rw [RegisterLine.reading, first]
  change (line.integer scaleField >>= _) = _
  rw [second]
  rfl

end RegisterLine

namespace ReadingSet

theorem decodeLines_cons_of_ok {register : Register} {line : RegisterLine}
    {rest : List (Register × RegisterLine)} {reading : Reading}
    (read : line.reading = .ok reading) :
    (decodeLines ((register, line) :: rest)).outcome =
      (decodeLines rest).outcome.map ((register, reading) :: ·) := by
  rw [decodeLines, Journaled.outcome_bind_of_ok read, Journaled.outcome_bind_of_ok rfl,
    Journaled.outcome_bind]
  cases (decodeLines rest).outcome with
  | error e => rfl
  | ok readings => rfl

/-- Lines that all have their numbers are decoded one by one. -/
theorem decodeLines_of_ok {lines : List (Register × RegisterLine)}
    {values : Register → Option Reading}
    (read : ∀ entry ∈ lines, ∃ reading, values entry.1 = some reading ∧
      entry.2.reading = .ok reading) :
    (decodeLines lines).outcome =
      .ok (lines.filterMap fun entry => (values entry.1).map (entry.1, ·)) := by
  induction lines with
  | nil => rfl
  | cons entry rest ih =>
      obtain ⟨first, others⟩ := List.forall_mem_cons.mp read
      obtain ⟨reading, value, line⟩ := first
      rw [decodeLines_cons_of_ok line, ih others, List.filterMap_cons_some (by rw [value]; rfl)]
      rfl

/-- The first line without its numbers ends the decoding. -/
theorem decodeLines_of_error {before after : List (Register × RegisterLine)}
    {entry : Register × RegisterLine} {error : ExtractError}
    (read : ∀ earlier ∈ before, ∃ reading, earlier.2.reading = .ok reading)
    (refused : entry.2.reading = .error error) :
    (decodeLines (before ++ entry :: after)).outcome = .error error := by
  induction before with
  | nil => exact Journaled.outcome_bind_of_error refused
  | cons earlier rest ih =>
      obtain ⟨⟨reading, first⟩, others⟩ := List.forall_mem_cons.mp read
      rw [List.cons_append, decodeLines_cons_of_ok first, ih others]
      rfl

/-- The registers that have numbers, in the order of all registers. -/
def numericRegisters : List Register := Register.all.filter (· ≠ .timestamp)

theorem mem_numericRegisters {register : Register} :
    register ∈ numericRegisters ↔ register ≠ .timestamp := by
  simp [numericRegisters, Register.mem_all]

theorem numericLines_of_get? {found : ByRegister RegisterLine} {line : Register → RegisterLine}
    (stored : ∀ register, found.get? register = some (line register)) :
    numericLines found = numericRegisters.map fun register => (register, line register) := by
  rw [numericLines, ByRegister.entries_of_get? stored, List.filter_map]
  rfl

variable {table : RegisterTable} {lines : List String}

theorem ofLines_of_gather_error {error : ExtractError}
    (failed : (gather table ∅ lines).outcome = .error error) :
    (ofLines table lines).outcome = .error error :=
  Journaled.outcome_bind_of_error failed

theorem ofLines_of_unmatched {found : ByRegister RegisterLine} {definition : Definition}
    (scan : (gather table ∅ lines).outcome = .ok found)
    (absent : unmatched? table found = some definition) :
    (ofLines table lines).outcome =
      .error (.missingRegister definition.marker definition.register) := by
  rw [ofLines, Journaled.outcome_bind_of_ok scan, absent]
  rfl

theorem ofLines_of_complete {found : ByRegister RegisterLine}
    (scan : (gather table ∅ lines).outcome = .ok found)
    (complete : unmatched? table found = none) :
    (ofLines table lines).outcome =
      (decodeLines (numericLines found)).outcome.map fun readings =>
        ⟨timestampOf found, ByRegister.ofList readings, found⟩ := by
  rw [ofLines, Journaled.outcome_bind_of_ok scan, complete, Journaled.outcome_bind]
  cases (decodeLines (numericLines found)).outcome with
  | error e => rfl
  | ok readings => rfl

end ReadingSet

end MeterUplink
