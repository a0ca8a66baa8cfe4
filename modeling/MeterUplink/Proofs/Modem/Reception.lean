import MeterUplink.Proofs.Modem.FailureSafety
import MeterUplink.Proofs.Text.Blank
import MeterUplink.Proofs.Text.Cutting

namespace MeterUplink.Modem

/-! The far end of the line. It reads the accepted bytes as text, cuts the text at the terminator
and looks for frames among the commands. It finds what was sent, as long as the terminator is
made of blanks and the chunks are not. -/

/-- The commands that some bytes stand for. There are none if the bytes are no text, or if the
text ends within a command. -/
def receivedCommands? (terminator : String) (bytes : List UInt8) : Option (List (List Char)) :=
  match Text.decodeUtf8? bytes with
  | none => none
  | some text =>
    match Text.cutAt terminator.toList [] text with
    | (commands, []) => some commands
    | (_, _ :: _) => none

/-- The text in front of the chunk in a command that sends a frame. -/
def frameOpening : String := "AT$SF="

/-- The chunk that a command sends, if it sends a frame. -/
def framed? (command : List Char) : Option (List Char) :=
  let opening := frameOpening.toList
  if opening.isPrefixOf command then some (command.drop opening.length) else none

/-- The chunks of all frames among some commands, joined. -/
def framedText (commands : List (List Char)) : List Char := (commands.filterMap framed?).flatten

/-- The texts of the three commands of one frame. -/
def frameTexts (chunk : String) : List (List Char) :=
  ["AT$GI?".toList, "AT$RC".toList, (frameOpening ++ chunk).toList]

theorem length_flatMap_frameTexts (chunks : List String) :
    (chunks.flatMap frameTexts).length = 3 * chunks.length := by
  induction chunks with
  | nil => rfl
  | cons chunk rest ih =>
      rw [List.flatMap_cons, List.length_append, ih, List.length_cons]
      simp only [frameTexts, List.length_cons, List.length_nil]
      omega

theorem toList_wireText (terminator : String) (chunks : List String) :
    (wireText terminator chunks).toList =
      (chunks.flatMap frameTexts).flatMap (· ++ terminator.toList) := by
  induction chunks with
  | nil => rfl
  | cons chunk rest ih =>
      rw [wireText] at ih
      rw [wireText, List.map_cons, String.join_cons, String.toList_append, ih, List.flatMap_cons,
        List.flatMap_append]
      simp only [frameTexts, frameOpening, List.flatMap_cons, List.flatMap_nil, List.append_nil,
        String.toList_append, List.append_assoc]

theorem framed?_frame (chunk : String) :
    framed? (frameOpening ++ chunk).toList = some chunk.toList := by
  have opened : frameOpening.toList.isPrefixOf (frameOpening ++ chunk).toList = true := by
    rw [List.isPrefixOf_iff_prefix, String.toList_append]
    exact List.prefix_append frameOpening.toList chunk.toList
  rw [framed?, if_pos opened, String.toList_append, List.drop_left]

/-- Only the last of the three commands sends a frame. -/
theorem framedText_flatMap (chunks : List String) :
    framedText (chunks.flatMap frameTexts) = (String.join chunks).toList := by
  induction chunks with
  | nil => rfl
  | cons chunk rest ih =>
      have one : (frameTexts chunk).filterMap framed? = [chunk.toList] := by
        have first : framed? "AT$GI?".toList = none := by decide
        have second : framed? "AT$RC".toList = none := by decide
        rw [frameTexts, List.filterMap_cons_none first, List.filterMap_cons_none second,
          List.filterMap_cons_some (framed?_frame chunk), List.filterMap_nil]
      rw [framedText] at ih
      rw [framedText, List.flatMap_cons, List.filterMap_append, List.flatten_append, one, ih,
        String.join_cons, String.toList_append, List.flatten_singleton]

theorem not_isBlank_of_mem_frameTexts {chunk : String} {command : List Char}
    (solid : ∀ c ∈ chunk.toList, Text.isBlank c = false) (member : command ∈ frameTexts chunk) :
    ∀ c ∈ command, Text.isBlank c = false := by
  simp only [frameTexts, List.mem_cons, List.not_mem_nil, or_false] at member
  rcases member with rfl | rfl | rfl
  · exact Text.not_isBlank_of_all (by decide)
  · exact Text.not_isBlank_of_all (by decide)
  · intro c member
    rw [String.toList_append] at member
    rcases List.mem_append.mp member with inOpening | inChunk
    · exact Text.not_isBlank_of_all (by decide) c inOpening
    · exact solid c inChunk

section

variable {terminator : String} {chunks : List String}
  (nonempty : terminator ≠ "") (blank : ∀ c ∈ terminator.toList, Text.isBlank c = true)
  (solid : ∀ chunk ∈ chunks, ∀ c ∈ chunk.toList, Text.isBlank c = false)

include blank solid in
theorem not_mem_terminator {command : List Char} (member : command ∈ chunks.flatMap frameTexts) :
    ∀ c ∈ command, c ∉ terminator.toList := by
  obtain ⟨chunk, among, member⟩ := List.mem_flatMap.mp member
  intro c inside ends
  have visible := not_isBlank_of_mem_frameTexts (solid chunk among) member c inside
  rw [blank c ends] at visible
  cases visible

include nonempty blank solid in
theorem receivedCommands?_wireText :
    receivedCommands? terminator (Text.utf8Bytes (wireText terminator chunks)) =
      some (chunks.flatMap frameTexts) := by
  have begins : terminator.toList ≠ [] := by simpa using nonempty
  rw [receivedCommands?, Text.utf8Bytes, Text.decodeUtf8?_encodeUtf8, toList_wireText]
  simp only [Text.cutAt_flatMap begins fun _ => not_mem_terminator blank solid]

include nonempty blank solid in
theorem not_infix_of_mem_frameTexts {command : List Char}
    (member : command ∈ chunks.flatMap frameTexts) : ¬ terminator.toList <:+: command := by
  intro inside
  obtain ⟨c, ends⟩ := List.exists_mem_of_ne_nil terminator.toList (by simpa using nonempty)
  exact not_mem_terminator blank solid member c (inside.subset ends) ends

end

end MeterUplink.Modem
