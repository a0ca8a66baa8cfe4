import MeterUplink.Proofs.Reading.Decoding

namespace MeterUplink.ReadingSet

/-! What extraction gives, told from the log as a whole. Lines at fault count first, in the order
of the log; then definitions that no line announces, in the order of the table; then fields that
are no numbers, in the order of all registers. -/

/-- Some line announces the definition. -/
def Matched (table : RegisterTable) (lines : List String) (definition : Definition) : Prop :=
  ∃ line ∈ lines, table.Announces line definition

/-- A line that announces the definition has the text in the field. -/
def HasField (table : RegisterTable) (lines : List String) (definition : Definition)
    (index : Nat) (raw : String) : Prop :=
  ∃ line ∈ lines, table.Announces line definition ∧ (RegisterLine.cut line)[index]? = some raw

/-- The field of a register's line is read as a number. -/
def HasNumber (table : RegisterTable) (lines : List String) (register : Register) (index : Nat)
    (n : Signed128) : Prop :=
  ∃ definition raw, definition.register = register ∧ HasField table lines definition index raw ∧
    Signed128.IsRead raw n

/-- The readings of a log: the line of each of the thirteen registers, the time as it is written,
and the numbers of the twelve others. -/
structure Holds (table : RegisterTable) (lines : List String) (readings : ReadingSet) :
    Prop where
  stored : ∀ register, ∃ line ∈ lines, ∃ definition, table.Announces line definition ∧
    definition.register = register ∧
    readings.lines.get? register = some ⟨definition.marker, register, RegisterLine.cut line⟩
  time : ∃ definition, definition.register = .timestamp ∧
    HasField table lines definition 2 readings.timestamp
  numbers : ∀ register ≠ .timestamp, ∃ reading,
    readings.readings.get? register = some reading ∧
    HasNumber table lines register 2 reading.magnitude ∧
    HasNumber table lines register 4 reading.scale
  timeless : readings.readings.get? .timestamp = none

inductive Extracts (table : RegisterTable) (lines : List String) :
    Except ExtractError ReadingSet → Prop where
  | fault {before after : List String} {line : String} {error : ExtractError}
      (place : lines = before ++ line :: after) (faultless : Faultless table before)
      (fault : LineFault table before line error) : Extracts table lines (.error error)
  | missing {before after : List Definition} {definition : Definition}
      (faultless : Faultless table lines)
      (place : table.definitions = before ++ definition :: after)
      (matched : ∀ earlier ∈ before, Matched table lines earlier)
      (absent : ¬ Matched table lines definition) :
      Extracts table lines (.error (.missingRegister definition.marker definition.register))
  | invalid {before after : List Register} {definition : Definition} {index : Nat} {raw : String}
      (faultless : Faultless table lines)
      (all : ∀ definition ∈ table.definitions, Matched table lines definition)
      (place : numericRegisters = before ++ definition.register :: after)
      (numbers : ∀ earlier ∈ before, (∃ n, HasNumber table lines earlier 2 n) ∧
        ∃ n, HasNumber table lines earlier 4 n)
      (which : index = 2 ∨ (∃ n, HasNumber table lines definition.register 2 n) ∧ index = 4)
      (field : HasField table lines definition index raw)
      (refused : ¬ ∃ n, Signed128.IsRead raw n) :
      Extracts table lines (.error (.invalidNumber definition.marker index raw))
  | complete {readings : ReadingSet} (faultless : Faultless table lines)
      (all : ∀ definition ∈ table.definitions, Matched table lines definition)
      (holds : Holds table lines readings) : Extracts table lines (.ok readings)

variable {table : RegisterTable} {lines : List String} {found : ByRegister RegisterLine}

theorem Found.contains_iff_matched (complete : table.Complete)
    (scanned : Found table lines found) {definition : Definition}
    (member : definition ∈ table.definitions) :
    found.contains definition.register = true ↔ Matched table lines definition := by
  rw [scanned.contains_iff]
  constructor
  · rintro ⟨line, among, other, announced, same⟩
    rw [complete.eq_of_register announced.mem member same] at announced
    exact ⟨line, among, announced⟩
  · rintro ⟨line, among, announced⟩
    exact ⟨line, among, definition, announced, rfl⟩

theorem unmatched?_eq_some (complete : table.Complete) (scanned : Found table lines found)
    {before after : List Definition} {definition : Definition}
    (place : table.definitions = before ++ definition :: after)
    (matched : ∀ earlier ∈ before, Matched table lines earlier)
    (absent : ¬ Matched table lines definition) : unmatched? table found = some definition := by
  have inTable {other : Definition} (inside : other ∈ before ++ definition :: after) :
      found.contains other.register = true ↔ Matched table lines other :=
    scanned.contains_iff_matched complete (place ▸ inside)
  rw [unmatched?, List.find?_eq_some_iff_append]
  refine ⟨?_, before, after, place, ?_⟩
  · rw [Bool.not_eq_true', ← Bool.not_eq_true, inTable (by simp)]
    exact absent
  · intro earlier member
    rw [Bool.not_not, inTable (List.mem_append_left _ member)]
    exact matched earlier member

theorem unmatched?_eq_none (complete : table.Complete) (scanned : Found table lines found)
    (all : ∀ definition ∈ table.definitions, Matched table lines definition) :
    unmatched? table found = none := by
  rw [unmatched?, List.find?_eq_none]
  intro definition member
  rw [Bool.not_eq_true, Bool.not_eq_false', scanned.contains_iff_matched complete member]
  exact all definition member

/-- If every definition is matched, a line is found for every register. -/
theorem Found.exists_get? (complete : table.Complete) (scanned : Found table lines found)
    (all : ∀ definition ∈ table.definitions, Matched table lines definition) :
    ∃ parsed : Register → RegisterLine,
      ∀ register, found.get? register = some (parsed register) := by
  have each (register : Register) : ∃ parsed, found.get? register = some parsed := by
    obtain ⟨definition, member, rfl⟩ := complete.every register
    have stored := (scanned.contains_iff_matched complete member).mpr (all definition member)
    exact Option.isSome_iff_exists.mp stored
  exact ⟨fun register => (each register).choose, fun register => (each register).choose_spec⟩

theorem Found.get?_of_hasField (scanned : Found table lines found) {definition : Definition}
    {index : Nat} {raw : String} (field : HasField table lines definition index raw) :
    ∃ parsed, found.get? definition.register = some parsed ∧
      parsed.marker = definition.marker ∧ parsed.field? index = some raw := by
  obtain ⟨line, member, announced, text⟩ := field
  exact ⟨_, (scanned _ _).mpr ⟨line, member, definition, announced, rfl, rfl⟩, rfl, text⟩

theorem Found.hasNumber_iff (scanned : Found table lines found) {register : Register}
    {index : Nat} {n : Signed128} :
    HasNumber table lines register index n ↔
      ∃ parsed, found.get? register = some parsed ∧ parsed.integer index = .ok n := by
  constructor
  · rintro ⟨definition, raw, rfl, field, read⟩
    obtain ⟨parsed, stored, _, text⟩ := scanned.get?_of_hasField field
    exact ⟨parsed, stored, RegisterLine.integer_eq_ok_iff.mpr ⟨raw, text, read⟩⟩
  · rintro ⟨parsed, stored, number⟩
    obtain ⟨raw, text, read⟩ := RegisterLine.integer_eq_ok_iff.mp number
    obtain ⟨line, member, definition, announced, rfl, rfl⟩ := (scanned _ _).mp stored
    exact ⟨definition, raw, rfl, ⟨line, member, announced, text⟩, read⟩

theorem Found.integer_eq_ok_iff (scanned : Found table lines found) {register : Register}
    {parsed : RegisterLine} (stored : found.get? register = some parsed) {index : Nat}
    {n : Signed128} :
    parsed.integer index = .ok n ↔ HasNumber table lines register index n := by
  rw [scanned.hasNumber_iff, stored]
  simp

theorem Found.reading_of_hasNumber (scanned : Found table lines found) {register : Register}
    {parsed : RegisterLine} (stored : found.get? register = some parsed) {reading : Reading}
    (magnitude : HasNumber table lines register 2 reading.magnitude)
    (scale : HasNumber table lines register 4 reading.scale) : parsed.reading = .ok reading :=
  RegisterLine.reading_eq_ok_iff.mpr ⟨(scanned.integer_eq_ok_iff stored).mpr magnitude,
    (scanned.integer_eq_ok_iff stored).mpr scale⟩

/-- A field that is no number ends the reading of its line, the magnitude before the scale. -/
theorem Found.reading_of_not_isRead (scanned : Found table lines found) {definition : Definition}
    {parsed : RegisterLine} (stored : found.get? definition.register = some parsed)
    {index : Nat} {raw : String} (field : HasField table lines definition index raw)
    (which : index = 2 ∨ (∃ n, HasNumber table lines definition.register 2 n) ∧ index = 4)
    (refused : ¬ ∃ n, Signed128.IsRead raw n) :
    parsed.reading = .error (.invalidNumber definition.marker index raw) := by
  obtain ⟨line, here, marker, text⟩ := scanned.get?_of_hasField field
  rw [stored, Option.some.injEq] at here
  subst here
  have unread := RegisterLine.integer_of_not_isRead text refused
  rw [marker] at unread
  rcases which with rfl | ⟨⟨n, magnitude⟩, rfl⟩
  · exact RegisterLine.reading_of_magnitude_error unread
  · have read := (scanned.integer_eq_ok_iff stored).mpr magnitude
    exact RegisterLine.reading_of_scale_error read unread

theorem outcome_of_invalid (complete : table.Complete) (faultless : Faultless table lines)
    (all : ∀ definition ∈ table.definitions, Matched table lines definition)
    {before after : List Register} {definition : Definition} {index : Nat} {raw : String}
    (place : numericRegisters = before ++ definition.register :: after)
    (numbers : ∀ earlier ∈ before, (∃ n, HasNumber table lines earlier 2 n) ∧
      ∃ n, HasNumber table lines earlier 4 n)
    (which : index = 2 ∨ (∃ n, HasNumber table lines definition.register 2 n) ∧ index = 4)
    (field : HasField table lines definition index raw)
    (refused : ¬ ∃ n, Signed128.IsRead raw n) :
    (ofLines table lines).outcome = .error (.invalidNumber definition.marker index raw) := by
  obtain ⟨found, scan, scanned⟩ := gather_of_faultless found_empty faultless
  obtain ⟨parsed, stored⟩ := scanned.exists_get? complete all
  have failed : (decodeLines (numericLines found)).outcome =
      .error (.invalidNumber definition.marker index raw) := by
    rw [numericLines_of_get? stored, place, List.map_append, List.map_cons]
    apply decodeLines_of_error
    · intro entry member
      obtain ⟨earlier, among, rfl⟩ := List.mem_map.mp member
      obtain ⟨⟨magnitude, first⟩, scale, second⟩ := numbers earlier among
      exact ⟨⟨magnitude, scale⟩, scanned.reading_of_hasNumber (stored earlier) first second⟩
    · exact scanned.reading_of_not_isRead (stored definition.register) field which refused
  rw [ofLines_of_complete scan (unmatched?_eq_none complete scanned all), failed]
  rfl

namespace Holds

variable {readings : ReadingSet} (holds : Holds table lines readings)

include holds

theorem found_eq (scanned : Found table lines found) : found = readings.lines := by
  ext1 register
  obtain ⟨line, member, definition, announced, same, stored⟩ := holds.stored register
  rw [stored]
  exact (scanned _ _).mpr ⟨line, member, definition, announced, same, rfl⟩

theorem timestampOf_eq (scanned : Found table lines readings.lines) :
    timestampOf readings.lines = readings.timestamp := by
  obtain ⟨definition, register, field⟩ := holds.time
  obtain ⟨line, here, _, text⟩ := scanned.get?_of_hasField field
  rw [register] at here
  rw [timestampOf, here]
  exact congrArg (·.getD "") text

theorem outcome_decodeLines (scanned : Found table lines readings.lines)
    {parsed : Register → RegisterLine}
    (stored : ∀ register, readings.lines.get? register = some (parsed register)) :
    (decodeLines (numericLines readings.lines)).outcome = .ok (numericRegisters.filterMap
      fun register => (readings.readings.get? register).map (register, ·)) := by
  rw [numericLines_of_get? stored, decodeLines_of_ok,
    List.filterMap_map]
  · rfl
  · intro entry member
    obtain ⟨register, among, rfl⟩ := List.mem_map.mp member
    obtain ⟨reading, value, magnitude, scale⟩ :=
      holds.numbers register (mem_numericRegisters.mp among)
    exact ⟨reading, value, scanned.reading_of_hasNumber (stored register) magnitude scale⟩

theorem ofList_eq : ByRegister.ofList (numericRegisters.filterMap fun register =>
    (readings.readings.get? register).map (register, ·)) = readings.readings := by
  ext1 register
  rw [ByRegister.get?_ofList_filterMap]
  by_cases isTime : register = .timestamp
  · rw [if_neg (by simp [mem_numericRegisters, isTime]), isTime, holds.timeless]
  · rw [if_pos (mem_numericRegisters.mpr isTime)]

end Holds

theorem outcome_of_holds (complete : table.Complete) (faultless : Faultless table lines)
    (all : ∀ definition ∈ table.definitions, Matched table lines definition)
    {readings : ReadingSet} (holds : Holds table lines readings) :
    (ofLines table lines).outcome = .ok readings := by
  obtain ⟨found, scan, scanned⟩ := gather_of_faultless found_empty faultless
  -- The log determines all parts of the readings, so they are those that the scan collects.
  obtain rfl := holds.found_eq scanned
  obtain ⟨parsed, stored⟩ := scanned.exists_get? complete all
  rw [ofLines_of_complete scan (unmatched?_eq_none complete scanned all),
    holds.outcome_decodeLines scanned stored]
  simp only [Except.map, holds.timestampOf_eq scanned, holds.ofList_eq]

/-- Extraction gives what the log as a whole says. -/
theorem outcome_of_extracts (complete : table.Complete) {result : Except ExtractError ReadingSet}
    (extracts : Extracts table lines result) : (ofLines table lines).outcome = result := by
  cases extracts with
  | fault place faultless fault =>
      rw [place]
      exact ofLines_of_gather_error (gather_of_first_fault faultless fault)
  | missing faultless place matched absent =>
      obtain ⟨found, scan, scanned⟩ := gather_of_faultless found_empty faultless
      exact ofLines_of_unmatched scan
        (unmatched?_eq_some complete scanned place matched absent)
  | invalid faultless all place numbers which field refused =>
      exact outcome_of_invalid complete faultless all place numbers which field refused
  | complete faultless all holds => exact outcome_of_holds complete faultless all holds

/-- An announced line of a log without faults has its five fields. -/
theorem Faultless.exists_field (faultless : Faultless table lines) {definition : Definition}
    (matched : Matched table lines definition) {index : Nat} (inside : index < 5) :
    ∃ raw, HasField table lines definition index raw := by
  obtain ⟨line, member, announced⟩ := matched
  obtain ⟨before, after, split⟩ := List.append_of_mem member
  have clean := faultless before line after split
  obtain ⟨_, enough⟩ := forall_not_lineFault_iff.mp clean definition announced
  have bounded : index < (RegisterLine.cut line).length := by omega
  exact ⟨(RegisterLine.cut line)[index], line, member, announced, List.getElem?_eq_getElem bounded⟩

theorem exists_invalid (complete : table.Complete) (faultless : Faultless table lines)
    (all : ∀ definition ∈ table.definitions, Matched table lines definition)
    {before after : List Register} {register : Register}
    (place : numericRegisters = before ++ register :: after)
    (numbers : ∀ earlier ∈ before, (∃ n, HasNumber table lines earlier 2 n) ∧
      ∃ n, HasNumber table lines earlier 4 n)
    (fails : ¬ ((∃ n, HasNumber table lines register 2 n) ∧
      ∃ n, HasNumber table lines register 4 n)) :
    ∃ error, Extracts table lines (.error error) := by
  obtain ⟨definition, member, rfl⟩ := complete.every register
  have matched := all definition member
  by_cases magnitude : ∃ n, HasNumber table lines definition.register 2 n
  · obtain ⟨raw, field⟩ := faultless.exists_field matched (by decide : 4 < 5)
    refine ⟨_, .invalid faultless all place numbers (.inr ⟨magnitude, rfl⟩) field ?_⟩
    rintro ⟨n, read⟩
    exact fails ⟨magnitude, n, definition, raw, rfl, field, read⟩
  · obtain ⟨raw, field⟩ := faultless.exists_field matched (by decide : 2 < 5)
    refine ⟨_, .invalid faultless all place numbers (.inl rfl) field ?_⟩
    rintro ⟨n, read⟩
    exact magnitude ⟨n, definition, raw, rfl, field, read⟩

theorem exists_holds (complete : table.Complete) (faultless : Faultless table lines)
    (all : ∀ definition ∈ table.definitions, Matched table lines definition)
    (numbers : ∀ register ∈ numericRegisters, (∃ n, HasNumber table lines register 2 n) ∧
      ∃ n, HasNumber table lines register 4 n) :
    ∃ readings, Holds table lines readings := by
  obtain ⟨found, _, scanned⟩ := gather_of_faultless found_empty faultless
  obtain ⟨parsed, stored⟩ := scanned.exists_get? complete all
  let value (register : Register) : Option Reading :=
    if register = .timestamp then none else (parsed register).reading.toOption
  obtain ⟨definition, member, register⟩ := complete.every .timestamp
  obtain ⟨time, field⟩ := faultless.exists_field (all definition member) (by decide : 2 < 5)
  refine ⟨⟨time, ⟨value⟩, found⟩, ?_, ⟨definition, register, field⟩, ?_, rfl⟩
  · intro register
    obtain ⟨line, among, definition, announced, same, here⟩ :=
      (scanned _ _).mp (stored register)
    exact ⟨line, among, definition, announced, same, here ▸ stored register⟩
  · intro register numeric
    obtain ⟨⟨magnitude, first⟩, scale, second⟩ :=
      numbers register (mem_numericRegisters.mpr numeric)
    have read : (parsed register).reading = .ok ⟨magnitude, scale⟩ :=
      scanned.reading_of_hasNumber (stored register) first second
    refine ⟨⟨magnitude, scale⟩, ?_, first, second⟩
    change value register = _
    simp only [value, if_neg numeric, read]
    rfl

/-- Every log says something. -/
theorem exists_extracts (complete : table.Complete) (lines : List String) :
    ∃ result, Extracts table lines result := by
  rcases faultless_or_exists_fault lines with
    faultless | ⟨before, line, after, error, place, earlier, fault⟩
  · rcases forall_or_exists_first_not (Matched table lines) table.definitions with
      all | ⟨before, definition, after, place, matched, absent⟩
    · rcases forall_or_exists_first_not (fun register =>
          (∃ n, HasNumber table lines register 2 n) ∧ ∃ n, HasNumber table lines register 4 n)
          numericRegisters with numbers | ⟨before, register, after, place, numbers, fails⟩
      · obtain ⟨readings, holds⟩ := exists_holds complete faultless all numbers
        exact ⟨_, .complete faultless all holds⟩
      · obtain ⟨error, invalid⟩ := exists_invalid complete faultless all place numbers fails
        exact ⟨_, invalid⟩
    · exact ⟨_, .missing faultless place matched absent⟩
  · exact ⟨_, .fault place earlier fault⟩

theorem exists_reading_of_ofLines (complete : table.Complete) {readings : ReadingSet}
    (extracted : (ofLines table lines).outcome = .ok readings) {register : Register}
    (numeric : register ≠ .timestamp) :
    ∃ reading, readings.readings.get? register = some reading := by
  obtain ⟨result, extracts⟩ := exists_extracts complete lines
  rw [outcome_of_extracts complete extracts] at extracted
  subst extracted
  cases extracts with
  | complete faultless all holds =>
      obtain ⟨reading, stored, _⟩ := holds.numbers register numeric
      exact ⟨reading, stored⟩

/-- The full meaning of extraction under an accepted table. -/
theorem outcome_eq_iff_extracts {definitions : List Definition}
    (made : RegisterTable.ofDefinitions? definitions = .ok table) (lines : List String)
    (result : Except ExtractError ReadingSet) :
    (ofLines table lines).outcome = result ↔ Extracts table lines result := by
  have complete := RegisterTable.complete_of_ofDefinitions? made
  constructor
  · rintro rfl
    obtain ⟨result, extracts⟩ := exists_extracts complete lines
    rw [outcome_of_extracts complete extracts]
    exact extracts
  · exact outcome_of_extracts complete

theorem extracts_of_repeated_line :
    Extracts .standard ["01 01 01 08 00 FF,,17,,3", "01 01 01 08 00 FF"]
      (.error (.duplicateRegister "01 01 01 08 00 FF" .activeEnergyImported)) := by
  refine (outcome_eq_iff_extracts RegisterTable.ofDefinitions?_standard _ _).mp ?_
  refine map_eq_error_iff.mp (?_ : Except.map (fun _ => ()) _ = _)
  decide +kernel

end MeterUplink.ReadingSet
