import MeterUplink.Proofs.Marker
import MeterUplink.Proofs.Reading.Scan
import MeterUplink.Proofs.Text.AsciiBytes
import MeterUplink.Proofs.Text.Feeds
import MeterUplink.Run

namespace MeterUplink

/-! Noise in a log file. A log is read as text before it is cut into lines, so the bytes of one line
could reach into the next one if they are no UTF-8. They never do: which lines of bytes carry a
marker decides the readings, and lines that carry none can be put in or left out anywhere. -/

/-- The file of a log: every line of bytes, each followed by a line feed. -/
def logBytes (lines : List (List UInt8)) : List UInt8 := lines.flatMap (· ++ [0x0A])

/-- The bytes of one of the markers stand in the line. -/
def RegisterTable.marks (table : RegisterTable) (line : List UInt8) : Bool :=
  table.definitions.any fun definition => Text.occursIn (Text.utf8Bytes definition.marker) line

namespace ReadingSet

variable {table : RegisterTable}

theorem gather_filter (found : ByRegister RegisterLine) (lines : List String) :
    gather table found (lines.filter fun line => (table.match? line).isSome) =
      gather table found lines := by
  induction lines generalizing found with
  | nil => rfl
  | cons line rest ih =>
      cases matched : table.match? line with
      | none =>
          rw [List.filter_cons_of_neg (by simp [matched]), gather_silent matched, ih]
      | some definition =>
          rw [List.filter_cons_of_pos (by simp [matched])]
          by_cases again : found.contains definition.register = true
          · rw [gather_repeated matched again, gather_repeated matched again]
          · rw [gather_fresh matched again, gather_fresh matched again]
            simp only [ih]

theorem ofLines_filter (lines : List String) :
    ofLines table (lines.filter fun line => (table.match? line).isSome) = ofLines table lines := by
  rw [ofLines, ofLines, gather_filter]

/-- A line of bytes as it is read: as text, without a carriage return at its end. -/
def lineText (line : List UInt8) : String :=
  String.ofList (Text.dropReturn (Text.decodeUtf8 line))

theorem not_mem_decodeUtf8 {line : List UInt8} (whole : 0x0A ∉ line) :
    '\n' ∉ Text.decodeUtf8 line := by
  intro member
  obtain ⟨before, after, split⟩ := List.append_of_mem member
  obtain ⟨front, back, rfl, _⟩ := (Text.decodeUtf8_eq_append_cons_iff (by decide)).mp split
  exact whole (List.mem_append_right front List.mem_cons_self)

theorem decodeUtf8_logBytes (lines : List (List UInt8)) :
    Text.decodeUtf8 (logBytes lines) = (lines.map Text.decodeUtf8).flatMap (· ++ ['\n']) := by
  induction lines with
  | nil => rfl
  | cons line rest ih =>
      rw [List.map_cons, List.flatMap_cons, ← ih, List.append_assoc, List.singleton_append,
        Text.decodeUtf8_eq_append_cons_iff (by decide)]
      exact ⟨line, logBytes rest, by simp [logBytes], rfl, rfl⟩

theorem lines_logBytes {lines : List (List UInt8)} (whole : ∀ line ∈ lines, 0x0A ∉ line) :
    (Text.lines (Text.decodeUtf8 (logBytes lines))).map String.ofList = lines.map lineText := by
  have feedless : ∀ text ∈ lines.map Text.decodeUtf8, '\n' ∉ text :=
    List.forall_mem_map.mpr fun line member => not_mem_decodeUtf8 (whole line member)
  rw [decodeUtf8_logBytes, Text.lines_flatMap_feed feedless, List.map_map, List.map_map]
  rfl

theorem infix_lineText_iff {marker : String} (valid : Marker.isValid marker = true)
    (line : List UInt8) :
    marker.toList <:+: (lineText line).toList ↔ Text.utf8Bytes marker <:+: line := by
  have ascii : ∀ c ∈ marker.toList, c.toNat < 0x80 := by
    intro c member
    rcases Marker.digit_or_space_of_mem valid member with digit | rfl
    · exact Nat.lt_of_le_of_lt (Marker.visible_of_isUpperDigit digit).2 (by decide)
    · decide
  have plain : '\r' ∉ marker.toList :=
    fun member => (Marker.plain_of_mem valid '\r' member).2.2 rfl
  rw [lineText, String.toList_ofList, Text.infix_dropReturn_iff plain,
    Text.infix_decodeUtf8_iff ascii, Text.utf8Bytes]

theorem isSome_match?_lineText
    (valid : ∀ definition ∈ table.definitions, Marker.isValid definition.marker = true)
    (line : List UInt8) : (table.match? (lineText line)).isSome = table.marks line := by
  rw [Bool.eq_iff_iff, RegisterTable.match?, List.find?_isSome, RegisterTable.marks,
    List.any_eq_true]
  refine exists_congr fun definition => and_congr_right fun member => ?_
  rw [Text.occursIn_iff, Text.occursIn_iff, infix_lineText_iff (valid definition member)]

theorem ofText_logBytes
    (valid : ∀ definition ∈ table.definitions, Marker.isValid definition.marker = true)
    {lines : List (List UInt8)} (whole : ∀ line ∈ lines, 0x0A ∉ line) :
    ofText table (String.ofList (Text.decodeUtf8 (logBytes lines))) =
      ofLines table ((lines.filter table.marks).map lineText) := by
  rw [ofText, String.toList_ofList, lines_logBytes whole, ← ofLines_filter, List.filter_map]
  have kept : lines.filter ((fun text => (table.match? text).isSome) ∘ lineText) =
      lines.filter table.marks :=
    List.filter_congr fun line _ => isSome_match?_lineText valid line
  rw [kept]

/-- Log files that are equal up to lines without a marker, of whatever bytes, are both read, and
give the same readings or the same error. -/
theorem ofText_eq_of_filter_eq {definitions : List Definition}
    (made : RegisterTable.ofDefinitions? definitions = .ok table)
    {first second : List (List UInt8)} (firstWhole : ∀ line ∈ first, 0x0A ∉ line)
    (secondWhole : ∀ line ∈ second, 0x0A ∉ line)
    (same : first.filter table.marks = second.filter table.marks)
    {files changed : Files} {holder : Holder}
    (before : files.read holder.logFilePath = .ok (logBytes first))
    (after : changed.read holder.logFilePath = .ok (logBytes second)) :
    ∃ log other, Run.readLog files holder = .ok log ∧ Run.readLog changed holder = .ok other ∧
      ofText table log = ofText table other := by
  have valid := (RegisterTable.ofDefinitions?_eq_ok made).1.valid
  refine ⟨_, _, by rw [Run.readLog, before], by rw [Run.readLog, after], ?_⟩
  rw [ofText_logBytes valid firstWhole, ofText_logBytes valid secondWhole, same]

/-- Before and behind the one line that counts, the second file has beginnings of characters that
are cut short by the line feed. -/
theorem ofText_eq_of_cut_noise :
    let counted := Text.utf8Bytes "01 01 01 08 00 FF,,17,,3"
    let plain := [counted]
    let noisy := [[0xF0, 0x9F], counted, [0x30, 0xB0, 0xE2, 0x82]]
    let files : Files := ⟨fun _ => .ok (logBytes plain)⟩
    let changed : Files := ⟨fun _ => .ok (logBytes noisy)⟩
    let holder : Holder := ⟨{}, "", .standard, none⟩
    ∃ log other, Run.readLog files holder = .ok log ∧ Run.readLog changed holder = .ok other ∧
      ofText .standard log = ofText .standard other :=
  ofText_eq_of_filter_eq RegisterTable.ofDefinitions?_standard (by decide +kernel)
    (by decide +kernel) (by decide +kernel) rfl rfl

end ReadingSet

end MeterUplink
