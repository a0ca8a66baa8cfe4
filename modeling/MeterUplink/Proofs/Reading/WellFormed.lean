import MeterUplink.Proofs.Marker
import MeterUplink.Proofs.Numeral.Spelling
import MeterUplink.Proofs.Reading.Order
import MeterUplink.Proofs.Text.Joining

namespace MeterUplink.ReadingSet

/-! Logs as a meter writes them: one line for each register of the table, in any order, with lines
of other things between them. Extraction gives back what was written. -/

/-- What a meter has to tell at one time. -/
structure Snapshot where
  time : String
  values : Register → Reading

def Snapshot.reading? (snapshot : Snapshot) (register : Register) : Option Reading :=
  if register = .timestamp then none else some (snapshot.values register)

/-- A text that ends no line and announces no register. -/
structure Harmless (table : RegisterTable) (text : String) : Prop where
  noFeed : '\n' ∉ text.toList
  noReturn : '\r' ∉ text.toList
  noMarker : ∀ definition ∈ table.definitions, ¬ definition.marker.toList <:+: text.toList

/-- A harmless text that ends no field either. -/
structure FieldText (table : RegisterTable) (text : String) : Prop extends Harmless table text where
  noComma : ',' ∉ text.toList

theorem fieldText_iff {table : RegisterTable} {text : String} :
    FieldText table text ↔ ('\n' ∉ text.toList ∧ '\r' ∉ text.toList ∧ ',' ∉ text.toList) ∧
      ∀ definition ∈ table.definitions, ¬ definition.marker.toList <:+: text.toList := by
  constructor
  · rintro ⟨⟨noFeed, noReturn, noMarker⟩, noComma⟩
    exact ⟨⟨noFeed, noReturn, noComma⟩, noMarker⟩
  · rintro ⟨⟨noFeed, noReturn, noComma⟩, noMarker⟩
    exact ⟨⟨noFeed, noReturn, noMarker⟩, noComma⟩

instance (table : RegisterTable) (text : String) : Decidable (FieldText table text) :=
  decidable_of_iff' _ fieldText_iff

/-- A line for a register. -/
structure Entry where
  definition : Definition
  description : String
  magnitude : String
  unit : String
  scale : String
  more : List String

namespace Entry

def fields (entry : Entry) : List String :=
  entry.definition.marker :: entry.description :: entry.magnitude :: entry.unit :: entry.scale ::
    entry.more

def text (entry : Entry) : String := ",".intercalate entry.fields

theorem toList_text (entry : Entry) :
    entry.text.toList = [','].intercalate (entry.fields.map String.toList) :=
  String.toList_intercalate

end Entry

/-- How the values of a register stand in its line: the time as it is, with anything for a scale;
numbers in any spelling. -/
inductive Tells (table : RegisterTable) (snapshot : Snapshot) :
    Register → String → String → Prop where
  | time {scale : String} (time : FieldText table snapshot.time) (other : FieldText table scale) :
      Tells table snapshot .timestamp snapshot.time scale
  | numbers {register : Register} (numeric : register ≠ .timestamp)
      (magnitude scale : Spelling) :
      Tells table snapshot register
        (magnitude.write (snapshot.values register).magnitude.value)
        (scale.write (snapshot.values register).scale.value)

theorem Tells.time_eq {table : RegisterTable} {snapshot : Snapshot} {magnitude scale : String}
    (tells : Tells table snapshot .timestamp magnitude scale) : magnitude = snapshot.time := by
  cases tells with
  | time => rfl
  | numbers numeric => exact absurd rfl numeric

theorem Tells.exists_spellings {table : RegisterTable} {snapshot : Snapshot} {register : Register}
    {magnitude scale : String} (tells : Tells table snapshot register magnitude scale)
    (numeric : register ≠ .timestamp) : ∃ first second : Spelling,
      magnitude = first.write (snapshot.values register).magnitude.value ∧
      scale = second.write (snapshot.values register).scale.value := by
  cases tells with
  | time => exact absurd rfl numeric
  | numbers _ first second => exact ⟨first, second, rfl, rfl⟩

inductive LogLine where
  | noise (text : String)
  | announcing (entry : Entry)

namespace LogLine

def text : LogLine → String
  | .noise text => text
  | .announcing entry => entry.text

def definition? : LogLine → Option Definition
  | .noise _ => none
  | .announcing entry => some entry.definition

/-- A line of a log that tells what the snapshot has. -/
inductive WellFormed (table : RegisterTable) (snapshot : Snapshot) : LogLine → Prop where
  | noise {text : String} (harmless : Harmless table text) :
      WellFormed table snapshot (.noise text)
  | announcing {entry : Entry}
      (texts : ∀ text ∈ entry.description :: entry.unit :: entry.more, FieldText table text)
      (tells : Tells table snapshot entry.definition.register entry.magnitude entry.scale) :
      WellFormed table snapshot (.announcing entry)

end LogLine

/-- A log with one line for each definition of the table. -/
structure WellFormed (table : RegisterTable) (snapshot : Snapshot) (log : List LogLine) :
    Prop where
  lines : ∀ line ∈ log, line.WellFormed table snapshot
  once : (log.filterMap LogLine.definition?).Perm table.definitions

variable {table : RegisterTable} {snapshot : Snapshot}

section

variable (canonical : RegisterTable.Canonical table.definitions)

include canonical

theorem fieldText_write (spelling : Spelling) (n : Signed128) :
    FieldText table (spelling.write n.value) where
  noFeed member := (spelling.plain_of_mem_write _ _ member).2.1 rfl
  noReturn member := (spelling.plain_of_mem_write _ _ member).2.2 rfl
  noComma member := (spelling.plain_of_mem_write _ _ member).1 rfl
  noMarker definition member :=
    Marker.not_infix_of_isRead (canonical.valid definition member) (spelling.isRead_write n)

theorem Tells.fieldText {register : Register} {magnitude scale : String}
    (tells : Tells table snapshot register magnitude scale) :
    FieldText table magnitude ∧ FieldText table scale := by
  cases tells with
  | time time other => exact ⟨time, other⟩
  | numbers numeric magnitude scale =>
      exact ⟨fieldText_write canonical magnitude _, fieldText_write canonical scale _⟩

theorem forall_mem_tail_fields {entry : Entry}
    (texts : ∀ text ∈ entry.description :: entry.unit :: entry.more, FieldText table text)
    (tells : Tells table snapshot entry.definition.register entry.magnitude entry.scale) :
    ∀ text ∈ entry.fields.tail, FieldText table text := by
  obtain ⟨magnitude, scale⟩ := tells.fieldText canonical
  simp only [List.forall_mem_cons] at texts
  obtain ⟨description, unit, more⟩ := texts
  simp only [Entry.fields, List.tail_cons, List.forall_mem_cons]
  exact ⟨description, magnitude, unit, scale, more⟩

namespace Entry

variable {entry : Entry} (among : entry.definition ∈ table.definitions)
  (others : ∀ text ∈ entry.fields.tail, FieldText table text)

include among others

theorem plain_of_mem_field : ∀ text ∈ entry.fields, ∀ c ∈ text.toList,
    c ≠ ',' ∧ c ≠ '\n' ∧ c ≠ '\r' := by
  refine List.forall_mem_cons.mpr ⟨?_, fun text member c inside => ?_⟩
  · exact Marker.plain_of_mem (canonical.valid _ among)
  · have field := others text member
    refine ⟨?_, ?_, ?_⟩
    · rintro rfl
      exact field.noComma inside
    · rintro rfl
      exact field.noFeed inside
    · rintro rfl
      exact field.noReturn inside

/-- The line is cut at the commas that it was joined with. -/
theorem cut_text : RegisterLine.cut entry.text = entry.fields := by
  have apart : ∀ part ∈ entry.fields.map String.toList, ',' ∉ part := by
    intro part member inside
    obtain ⟨text, here, rfl⟩ := List.mem_map.mp member
    exact (plain_of_mem_field canonical among others text here _ inside).1 rfl
  rw [RegisterLine.cut, toList_text, List.splitOn_intercalate _ apart (by simp [fields]),
    List.map_map]
  simp

theorem not_mem_text : '\n' ∉ entry.text.toList ∧ '\r' ∉ entry.text.toList := by
  have plain : ∀ c ∈ entry.text.toList, c ≠ '\n' ∧ c ≠ '\r' := by
    intro c member
    rw [toList_text] at member
    rcases Text.mem_of_mem_intercalate member with rfl | ⟨part, present, inside⟩
    · decide
    · obtain ⟨text, here, rfl⟩ := List.mem_map.mp present
      exact (plain_of_mem_field canonical among others text here c inside).2
  exact ⟨fun member => (plain _ member).1 rfl, fun member => (plain _ member).2 rfl⟩

/-- The only marker in the line is its own: none reaches over a comma, none stands in another
field, and within the first field there is only room for one. -/
theorem eq_of_marker_infix {definition : Definition} (member : definition ∈ table.definitions)
    (inside : definition.marker.toList <:+: entry.text.toList) :
    definition = entry.definition := by
  have valid := canonical.valid definition member
  rw [toList_text] at inside
  have some : definition.marker.toList ≠ [] :=
    List.ne_nil_of_length_pos (by rw [Marker.length_of_isValid valid]; decide)
  obtain ⟨part, present, inside⟩ := Text.exists_infix_of_infix_intercalate some
    (fun comma => (Marker.plain_of_mem valid _ comma).1 rfl) inside
  obtain ⟨text, here, rfl⟩ := List.mem_map.mp present
  rcases List.mem_cons.mp here with rfl | elsewhere
  · have same := Marker.eq_of_infix valid (canonical.valid _ among) inside
    exact List.inj_on_of_nodup_map canonical.markers member among same
  · exact absurd inside ((others text elsewhere).noMarker definition member)

theorem announces_iff {definition : Definition} :
    table.Announces entry.text definition ↔ definition = entry.definition := by
  have own {definition : Definition} (announced : table.Announces entry.text definition) :
      definition = entry.definition := by
    have member := announced.mem
    obtain ⟨_, _, _, inside, _⟩ := announced
    exact eq_of_marker_infix canonical among others member inside
  refine ⟨own, ?_⟩
  rintro rfl
  -- its marker is there, so something is announced, and that can only be the line's own
  cases found : table.match? entry.text with
  | some definition =>
      have announced := RegisterTable.match?_eq_some_iff.mp found
      exact own announced ▸ announced
  | none =>
      have absent := List.find?_eq_none.mp found entry.definition among
      have inside : entry.definition.marker.toList <:+: entry.text.toList := by
        rw [toList_text]
        exact ⟨[], _, rfl⟩
      exact absurd (Text.occursIn_iff.mpr inside) absent

end Entry

end

theorem not_announces_of_harmless {text : String} (harmless : Harmless table text)
    {definition : Definition} : ¬ table.Announces text definition := by
  intro announced
  have member := announced.mem
  obtain ⟨_, _, _, inside, _⟩ := announced
  exact harmless.noMarker definition member inside

namespace WellFormed

variable {log : List LogLine} (wellFormed : WellFormed table snapshot log)

include wellFormed

theorem mem_definitions_iff {definition : Definition} :
    definition ∈ table.definitions ↔ ∃ line ∈ log, line.definition? = some definition := by
  rw [← wellFormed.once.mem_iff, List.mem_filterMap]

variable (canonical : RegisterTable.Canonical table.definitions)

include canonical

theorem announces_iff {line : LogLine} (member : line ∈ log) {definition : Definition} :
    table.Announces line.text definition ↔ line.definition? = some definition := by
  have told := wellFormed.lines line member
  cases told with
  | noise harmless =>
      exact iff_of_false (not_announces_of_harmless harmless) nofun
  | announcing texts tells =>
      rename_i entry
      have among := wellFormed.mem_definitions_iff.mpr ⟨_, member, rfl⟩
      have others := forall_mem_tail_fields canonical texts tells
      rw [LogLine.definition?, Option.some.injEq]
      exact (Entry.announces_iff canonical among others).trans eq_comm

theorem exists_entry {line : LogLine} (member : line ∈ log) {definition : Definition}
    (announced : table.Announces line.text definition) :
    ∃ entry : Entry, entry.definition = definition ∧
      RegisterLine.cut line.text = entry.fields ∧
      Tells table snapshot definition.register entry.magnitude entry.scale := by
  have defines := (wellFormed.announces_iff canonical member).mp announced
  have told := wellFormed.lines line member
  cases told with
  | noise harmless => cases defines
  | announcing texts tells =>
      rename_i entry
      cases defines
      have among := wellFormed.mem_definitions_iff.mpr ⟨_, member, rfl⟩
      exact ⟨entry, rfl, Entry.cut_text canonical among
        (forall_mem_tail_fields canonical texts tells), tells⟩

theorem faultless : Faultless table (log.map LogLine.text) := by
  rw [faultless_iff_pairwise]
  constructor
  · intro text member definition announced few
    obtain ⟨line, among, rfl⟩ := List.mem_map.mp member
    obtain ⟨entry, _, cut, _⟩ := wellFormed.exists_entry canonical among announced
    rw [cut] at few
    simp only [Entry.fields, List.length_cons] at few
    omega
  · have distinct : ((log.filterMap LogLine.definition?).map (·.register)).Nodup :=
      (wellFormed.once.map _).nodup_iff.mpr canonical.registers
    rw [List.Nodup, List.pairwise_map, List.pairwise_filterMap] at distinct
    rw [List.pairwise_map]
    refine distinct.imp_of_mem fun first second apart definition other announced announced' => ?_
    exact apart _ ((wellFormed.announces_iff canonical first).mp announced) _
      ((wellFormed.announces_iff canonical second).mp announced')

theorem matched {definition : Definition} (member : definition ∈ table.definitions) :
    Matched table (log.map LogLine.text) definition := by
  obtain ⟨line, among, defines⟩ := wellFormed.mem_definitions_iff.mp member
  exact ⟨_, List.mem_map_of_mem among, (wellFormed.announces_iff canonical among).mpr defines⟩

theorem tells_of_hasField {definition : Definition} {index : Nat} {raw : String}
    (field : HasField table (log.map LogLine.text) definition index raw) :
    ∃ entry : Entry, entry.fields[index]? = some raw ∧
      Tells table snapshot definition.register entry.magnitude entry.scale := by
  obtain ⟨text, member, announced, stands⟩ := field
  obtain ⟨line, among, rfl⟩ := List.mem_map.mp member
  obtain ⟨entry, rfl, cut, tells⟩ := wellFormed.exists_entry canonical among announced
  rw [cut] at stands
  exact ⟨entry, stands, tells⟩

theorem hasNumber_iff (complete : table.Complete) {register : Register} {index : Nat}
    {value n : Signed128}
    (spelled : ∀ entry : Entry, Tells table snapshot register entry.magnitude entry.scale →
      ∃ spelling : Spelling, entry.fields[index]? = some (spelling.write value.value)) :
    HasNumber table (log.map LogLine.text) register index n ↔ n = value := by
  constructor
  · rintro ⟨definition, raw, rfl, field, read⟩
    obtain ⟨entry, stands, tells⟩ := wellFormed.tells_of_hasField canonical field
    obtain ⟨spelling, written⟩ := spelled entry tells
    rw [stands, Option.some.injEq] at written
    have first := Signed128.ofText?_eq_some_iff.mpr read
    have second := Signed128.ofText?_eq_some_iff.mpr (spelling.isRead_write value)
    rw [written, second] at first
    exact (Option.some.inj first).symm
  · rintro rfl
    obtain ⟨definition, member, rfl⟩ := complete.every register
    obtain ⟨text, present, announced⟩ := wellFormed.matched canonical member
    obtain ⟨line, among, rfl⟩ := List.mem_map.mp present
    obtain ⟨entry, _, cut, tells⟩ := wellFormed.exists_entry canonical among announced
    obtain ⟨spelling, written⟩ := spelled entry tells
    exact ⟨definition, _, rfl, ⟨_, present, announced, cut ▸ written⟩, spelling.isRead_write n⟩

theorem hasNumber_magnitude_iff (complete : table.Complete) {register : Register}
    (numeric : register ≠ .timestamp) {n : Signed128} :
    HasNumber table (log.map LogLine.text) register 2 n ↔
      n = (snapshot.values register).magnitude := by
  refine wellFormed.hasNumber_iff canonical complete fun entry tells => ?_
  obtain ⟨first, _, written, _⟩ := tells.exists_spellings numeric
  exact ⟨first, congrArg some written⟩

theorem hasNumber_scale_iff (complete : table.Complete) {register : Register}
    (numeric : register ≠ .timestamp) {n : Signed128} :
    HasNumber table (log.map LogLine.text) register 4 n ↔
      n = (snapshot.values register).scale := by
  refine wellFormed.hasNumber_iff canonical complete fun entry tells => ?_
  obtain ⟨_, second, _, written⟩ := tells.exists_spellings numeric
  exact ⟨second, congrArg some written⟩

theorem outcome_ofLines (complete : table.Complete) :
    ∃ readings, (ofLines table (log.map LogLine.text)).outcome = .ok readings ∧
      readings.timestamp = snapshot.time ∧
      ∀ register, readings.readings.get? register = snapshot.reading? register := by
  have faultless := wellFormed.faultless canonical
  have all (definition : Definition) (member : definition ∈ table.definitions) :=
    wellFormed.matched canonical member
  obtain ⟨readings, holds⟩ := exists_holds complete faultless all fun register numeric =>
    have numeric := mem_numericRegisters.mp numeric
    ⟨⟨_, (wellFormed.hasNumber_magnitude_iff canonical complete numeric).mpr rfl⟩,
      ⟨_, (wellFormed.hasNumber_scale_iff canonical complete numeric).mpr rfl⟩⟩
  refine ⟨readings, outcome_of_holds complete faultless all holds, ?_, fun register => ?_⟩
  · obtain ⟨definition, isTime, field⟩ := holds.time
    obtain ⟨entry, stands, tells⟩ := wellFormed.tells_of_hasField canonical field
    rw [isTime] at tells
    rw [← tells.time_eq]
    exact (Option.some.inj stands).symm
  · rw [Snapshot.reading?]
    split
    case isTrue isTime => rw [isTime, holds.timeless]
    case isFalse numeric =>
      obtain ⟨reading, stored, first, second⟩ := holds.numbers register numeric
      have magnitude := (wellFormed.hasNumber_magnitude_iff canonical complete numeric).mp first
      have scale := (wellFormed.hasNumber_scale_iff canonical complete numeric).mp second
      rw [stored]
      exact congrArg some (congrArg₂ Reading.mk magnitude scale)

theorem not_mem_text {line : LogLine} (member : line ∈ log) :
    '\n' ∉ line.text.toList ∧ '\r' ∉ line.text.toList := by
  have told := wellFormed.lines line member
  cases told with
  | noise harmless => exact ⟨harmless.noFeed, harmless.noReturn⟩
  | announcing texts tells =>
      have among := wellFormed.mem_definitions_iff.mpr ⟨_, member, rfl⟩
      exact Entry.not_mem_text canonical among (forall_mem_tail_fields canonical texts tells)

end WellFormed

/-- An empty line announces nothing, so it can go. -/
theorem WellFormed.of_snoc {log : List LogLine} {line : LogLine}
    (wellFormed : WellFormed table snapshot (log ++ [line]))
    (canonical : RegisterTable.Canonical table.definitions) (empty : line.text = "") :
    WellFormed table snapshot log := by
  have silent : line.definition? = none := by
    rw [Option.eq_none_iff_forall_ne_some]
    intro definition defines
    have announced := (wellFormed.announces_iff canonical (by simp)).mpr defines
    have length := Marker.length_of_isValid (canonical.valid definition announced.mem)
    obtain ⟨_, _, _, inside, _⟩ := announced
    rw [empty] at inside
    rw [List.infix_nil.mp inside] at length
    cases length
  have once := wellFormed.once
  rw [List.filterMap_append, List.filterMap_cons_none silent, List.filterMap_nil,
    List.append_nil] at once
  exact ⟨fun other member => wellFormed.lines other (List.mem_append_left _ member), once⟩

/-- The lines of a log as one text. -/
def logText (lineEnd : Text.LineEnd) (final : Bool) (log : List LogLine) : String :=
  String.ofList (lineEnd.join final (log.map fun line => line.text.toList))

theorem exists_lines_logText {log : List LogLine} (wellFormed : WellFormed table snapshot log)
    (canonical : RegisterTable.Canonical table.definitions) (nonempty : log ≠ [])
    (lineEnd : Text.LineEnd) (final : Bool) :
    ∃ kept, WellFormed table snapshot kept ∧
      (Text.lines (logText lineEnd final log).toList).map String.ofList =
        kept.map LogLine.text := by
  have whole (kept : List LogLine) :
      (kept.map fun line => line.text.toList).map String.ofList = kept.map LogLine.text := by
    simp
  have plain : ∀ line ∈ log.map fun line => line.text.toList, '\n' ∉ line ∧ '\r' ∉ line := by
    intro chars member
    obtain ⟨line, among, rfl⟩ := List.mem_map.mp member
    exact wellFormed.not_mem_text canonical among
  rw [logText, String.toList_ofList, Text.lines_join lineEnd final (by simpa using nonempty) plain]
  split
  · exact ⟨log, wellFormed, whole log⟩
  · rw [Text.dropEmptyLast]
    split
    -- an empty last line without an end of its own is lost when the text is cut
    case isTrue empty =>
      obtain ⟨kept, line, rfl⟩ := List.eq_nil_or_concat log |>.resolve_left nonempty
      rw [List.concat_eq_append] at wellFormed empty ⊢
      rw [List.map_append, List.map_singleton] at empty ⊢
      rw [List.getLast?_concat, Option.some.injEq, String.toList_eq_nil_iff] at empty
      refine ⟨kept, wellFormed.of_snoc canonical empty, ?_⟩
      rw [List.dropLast_concat, whole kept]
    case isFalse => exact ⟨log, wellFormed, whole log⟩

/-- Extraction gives back what a meter wrote: the time and every number of a log with one line for
each register, whatever the order, the other lines, the spellings and the line ends. -/
theorem outcome_ofText_of_wellFormed {definitions : List Definition}
    (made : RegisterTable.ofDefinitions? definitions = .ok table) {log : List LogLine}
    (wellFormed : WellFormed table snapshot log) (lineEnd : Text.LineEnd) (final : Bool) :
    ∃ readings, (ofText table (logText lineEnd final log)).outcome = .ok readings ∧
      readings.timestamp = snapshot.time ∧
      ∀ register, readings.readings.get? register = snapshot.reading? register := by
  have complete := RegisterTable.complete_of_ofDefinitions? made
  have canonical := (RegisterTable.ofDefinitions?_eq_ok made).1
  have nonempty : log ≠ [] := by
    rintro rfl
    obtain ⟨definition, member, _⟩ := complete.every .timestamp
    obtain ⟨_, inside, _⟩ := wellFormed.mem_definitions_iff.mp member
    cases inside
  obtain ⟨kept, keeps, lines⟩ :=
    exists_lines_logText wellFormed canonical nonempty lineEnd final
  rw [ofText, lines]
  exact keeps.outcome_ofLines canonical complete

/-- Both ends of the range for each register. -/
def widestSnapshot : Snapshot where
  time := "17 10 05 12:30:00"
  values _ := ⟨⟨BitVec.intMin 128⟩, ⟨BitVec.intMax 128⟩⟩

def looseSpelling : Spelling where
  front := ['\t', '\u00A0']
  plus := true
  zeros := 3
  back := [' ']
  padding := by
    simp only [List.cons_append, List.nil_append, List.forall_mem_cons, List.not_mem_nil,
      false_implies, implies_true, and_true]
    decide

def looseEntry (definition : Definition) : Entry where
  definition := definition
  description := "01 01"
  magnitude := if definition.register = .timestamp then widestSnapshot.time
    else looseSpelling.write (widestSnapshot.values definition.register).magnitude.value
  unit := ""
  scale := if definition.register = .timestamp then "none"
    else looseSpelling.write (widestSnapshot.values definition.register).scale.value
  more := ["FF", ""]

example : (looseEntry ⟨"01 01 0E 07 00 FF", .frequency⟩).text =
    "01 01 0E 07 00 FF,01 01,\t\u00A0-000170141183460469231731687303715884105728 ,," ++
      "\t\u00A0+000170141183460469231731687303715884105727 ,FF," := by decide +kernel

/-- All registers in reverse order, between a heading and an empty line. -/
def looseLog : List LogLine :=
  .noise "01 01 01 08 00 F" ::
    (RegisterTable.standardDefinitions.reverse.map fun definition =>
      .announcing (looseEntry definition)) ++ [.noise ""]

theorem wellFormed_looseLog : WellFormed .standard widestSnapshot looseLog where
  once := RegisterTable.standardDefinitions.reverse_perm
  lines := by
    have heading : FieldText .standard "01 01 01 08 00 F" := by decide +kernel
    have blank : FieldText .standard "" := by decide +kernel
    have description : FieldText .standard "01 01" := by decide +kernel
    have more : FieldText .standard "FF" := by decide +kernel
    have time : FieldText .standard widestSnapshot.time := by decide +kernel
    have scale : FieldText .standard "none" := by decide +kernel
    simp only [looseLog, List.cons_append, List.forall_mem_cons, List.forall_mem_append,
      List.forall_mem_map, List.not_mem_nil, false_implies, implies_true, and_true]
    refine ⟨.noise heading.toHarmless, fun definition _ => .announcing ?_ ?_,
      .noise blank.toHarmless⟩
    · simp only [looseEntry, List.forall_mem_cons, List.not_mem_nil, false_implies, implies_true,
        and_true]
      exact ⟨description, blank, more, blank⟩
    · obtain ⟨marker, register⟩ := definition
      by_cases isTime : register = .timestamp
      · subst isTime
        exact .time time scale
      · simp only [looseEntry, if_neg isTime]
        exact .numbers isTime looseSpelling looseSpelling

theorem outcome_ofText_looseLog : ∃ readings,
    (ofText .standard (logText .returnFeed false looseLog)).outcome = .ok readings ∧
      readings.timestamp = "17 10 05 12:30:00" ∧
      readings.readings.get? .frequency =
        some ⟨⟨BitVec.intMin 128⟩, ⟨BitVec.intMax 128⟩⟩ := by
  obtain ⟨readings, extracted, time, values⟩ := outcome_ofText_of_wellFormed
    RegisterTable.ofDefinitions?_standard wellFormed_looseLog .returnFeed false
  exact ⟨readings, extracted, time, values .frequency⟩

end MeterUplink.ReadingSet
