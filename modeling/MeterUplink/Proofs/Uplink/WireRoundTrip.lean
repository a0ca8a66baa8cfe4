import MeterUplink.Proofs.Holder
import MeterUplink.Proofs.Modem.Reception
import MeterUplink.Proofs.Payload.Characters
import MeterUplink.Proofs.Payload.Encryption
import MeterUplink.Proofs.Uplink.Stages

namespace MeterUplink

/-! From a log to the far end of the line: the frames that arrive carry the payload, or the
ciphertext that the key turns back into the payload. -/

open Modem

/-- A transmission that succeeds writes every frame and nothing else. -/
theorem Modem.accepted_of_transmit {timing : Timing} {chunks : Chunks} {port : Port} {sent : Nat}
    (succeeded : (transmit timing chunks port).outcome = .ok sent) :
    sent = chunks.count ∧ accepted (transmit timing chunks port).events =
      Text.utf8Bytes (wireText timing.terminator chunks.texts) := by
  have segment := transmit_segment timing chunks port
  rw [succeeded] at segment
  generalize accepted (transmit timing chunks port).events = bytes at segment ⊢
  cases segment with
  | sent => exact ⟨rfl, rfl⟩

namespace Uplink

/-- What the frames carry: the payload, encrypted if the uplink was. -/
def sentPayload (uplink : Uplink) : Payload := uplink.ciphertext.getD uplink.payload

@[simp] theorem encryptIfKeyed_none (payload : Payload) :
    encryptIfKeyed none payload = .ok none := rfl

@[simp] theorem encryptIfKeyed_some (key : Cipher.CipherKey) (payload : Payload) :
    encryptIfKeyed (some key) payload = (payload.encrypt key).map some := rfl

variable {holder : Holder} {log : String} {uplink : Uplink}

theorem exists_ciphertext {key : Cipher.CipherKey} (keyed : holder.cipherKey = some key)
    (prepared : (prepare holder log).outcome = .ok uplink) :
    ∃ ciphertext, uplink.ciphertext = some ciphertext ∧
      uplink.payload.encrypt key = .ok ciphertext := by
  obtain ⟨_, _, encrypted, _⟩ := prepare_eq_ok_iff.mp prepared
  rw [keyed, encryptIfKeyed_some] at encrypted
  obtain ⟨ciphertext, done, turned⟩ := map_eq_ok_iff.mp encrypted
  exact ⟨ciphertext, turned.symm, done⟩

theorem ciphertext_of_unkeyed (unkeyed : holder.cipherKey = none)
    (prepared : (prepare holder log).outcome = .ok uplink) : uplink.ciphertext = none := by
  obtain ⟨_, _, encrypted, _⟩ := prepare_eq_ok_iff.mp prepared
  rw [unkeyed, encryptIfKeyed_none, Except.ok.injEq] at encrypted
  exact encrypted.symm

theorem concat_chunks (prepared : (prepare holder log).outcome = .ok uplink) :
    uplink.chunks.concat = uplink.sentPayload.text :=
  have ⟨_, _, _, cut⟩ := prepare_eq_ok_iff.mp prepared
  Payload.concat_of_cut cut

/-- Whatever the log says, no blank gets into a frame. -/
theorem not_isBlank_of_mem_chunks (prepared : (prepare holder log).outcome = .ok uplink) :
    ∀ chunk ∈ uplink.chunks.texts, ∀ c ∈ chunk.toList, Text.isBlank c = false := by
  obtain ⟨_, encoded, _, cut⟩ := prepare_eq_ok_iff.mp prepared
  intro chunk among c inside
  have inPayload := Payload.mem_of_mem_chunk cut among inside
  cases keyed : holder.cipherKey with
  | none =>
      rw [ciphertext_of_unkeyed keyed prepared] at inPayload
      exact ReadingSet.not_isBlank_of_encode encoded c inPayload
  | some key =>
      obtain ⟨ciphertext, turned, done⟩ := exists_ciphertext keyed prepared
      rw [turned] at inPayload
      exact Hex.not_isBlank_of_isLowerDigit (Payload.isLowerDigit_of_encryptWith done c inPayload)

/-- What the holder of the same key gets out of a text that an uplink was sent as. -/
def Delivers (holder : Holder) (uplink : Uplink) (received : Payload) : Prop :=
  if holder.settings.payload.encryption.enabled then
    uplink.ciphertext = some received ∧ ∃ key, holder.cipherKey = some key ∧
      received.decrypt key = .ok ⟨uplink.payload.text.map Char.toLower⟩
  else uplink.ciphertext = none ∧ received = uplink.payload

theorem delivers_sentPayload {settings : Settings}
    (valid : (Holder.ofSettings settings).outcome = .ok holder)
    (prepared : (prepare holder log).outcome = .ok uplink) :
    Delivers holder uplink uplink.sentPayload := by
  obtain ⟨_, table, cipherKey, _, keyed, rfl⟩ := Holder.ofSettings_eq_ok_iff.mp valid
  rw [Delivers]
  by_cases enabled : settings.payload.encryption.enabled = true
  · rw [EncryptionSettings.cipherKey, if_pos enabled] at keyed
    obtain ⟨key, _, rfl⟩ := map_eq_ok_iff.mp keyed
    obtain ⟨ciphertext, turned, done⟩ := exists_ciphertext rfl prepared
    rw [if_pos enabled, sentPayload, turned]
    exact ⟨rfl, key, rfl, Payload.decryptWith_of_encryptWith done⟩
  · rw [EncryptionSettings.cipherKey, if_neg enabled] at keyed
    cases keyed
    rw [if_neg enabled, sentPayload, ciphertext_of_unkeyed rfl prepared]
    exact ⟨rfl, rfl⟩

/-- The round trip over the wire. With a terminator of blanks, whatever the log said and however
the port took the bytes, a transmission that succeeds was received as three commands for every
chunk, none with a terminator inside, and their frames deliver the uplink. -/
theorem receivedCommands?_of_transmit {settings : Settings} {port : Port} {sent : Nat}
    (valid : (Holder.ofSettings settings).outcome = .ok holder)
    (nonempty : holder.settings.transport.terminator ≠ "")
    (blank : ∀ c ∈ holder.settings.transport.terminator.toList, Text.isBlank c = true)
    (prepared : (prepare holder log).outcome = .ok uplink)
    (succeeded : (transmit (.ofSettings holder.settings.serial holder.settings.transport)
      uplink.chunks port).outcome = .ok sent) :
    ∃ commands, receivedCommands? holder.settings.transport.terminator (accepted
        (transmit (.ofSettings holder.settings.serial holder.settings.transport)
          uplink.chunks port).events) = some commands ∧
      commands.length = 3 * uplink.chunks.count ∧
      commands = uplink.chunks.texts.flatMap (fun chunk =>
        ["AT$GI?".toList, "AT$RC".toList, ("AT$SF=" ++ chunk).toList]) ∧
      (∀ command ∈ commands, ¬ holder.settings.transport.terminator.toList <:+: command) ∧
      Delivers holder uplink ⟨String.ofList (framedText commands)⟩ := by
  have solid := not_isBlank_of_mem_chunks prepared
  obtain ⟨_, bytes⟩ := accepted_of_transmit succeeded
  refine ⟨uplink.chunks.texts.flatMap frameTexts, ?_, length_flatMap_frameTexts _, rfl,
    fun command => not_infix_of_mem_frameTexts nonempty blank solid, ?_⟩
  · rw [bytes]
    exact receivedCommands?_wireText nonempty blank solid
  · have joined := concat_chunks prepared
    rw [Chunks.concat] at joined
    rw [framedText_flatMap, String.ofList_toList, joined]
    exact delivers_sentPayload valid prepared

/-- Settings with a terminator of two characters. -/
def lineFeedSettings : Settings := { transport := { terminator := "\r\n" } }

/-- One line for every standard register. The time field looks like a command. -/
def fullLog : String :=
  String.ofList (RegisterTable.standardDefinitions.flatMap fun definition =>
    definition.marker.toList ++
      if definition.register = .timestamp then ",,17 AT$SF=:,,\n".toList else ",,17,,3\n".toList)

/-- The first command is taken in pieces, the fourth after a delay; the modem rejects one. -/
def fitfulPort : Port :=
  { writes := [.acceptAtMost 3, .after 20, .interrupted, .acceptAtMost 1, .acceptAll, .acceptAll,
      .acceptAll, .after 500],
    reads := [.bytes [79, 75, 13, 10], .bytes [69, 82, 82, 79, 82]] }

theorem receivedCommands?_of_transmit_fullLog :
    ∃ uplink, (prepare ⟨lineFeedSettings, "", .standard, none⟩ fullLog).outcome = .ok uplink ∧
      ∃ commands, receivedCommands? "\r\n" (accepted
          (transmit (.ofSettings lineFeedSettings.serial lineFeedSettings.transport)
            uplink.chunks fitfulPort).events) = some commands ∧
        commands.length = 6 ∧ String.ofList (framedText commands) = uplink.payload.text := by
  have valid : (Holder.ofSettings lineFeedSettings).outcome =
      .ok ⟨lineFeedSettings, "", .standard, none⟩ :=
    Holder.ofSettings_eq_ok_iff.mpr
      ⟨by decide, .standard, none, RegisterTable.ofDefinitions?_standard, rfl, rfl⟩
  have blank : ∀ c ∈ "\r\n".toList, Text.isBlank c = true :=
    List.all_eq_true.mp (by decide)
  have cut : (prepare ⟨lineFeedSettings, "", .standard, none⟩ fullLog).outcome.map (·.chunks) =
      .ok ⟨["17AT$SF=1131131131131131", "13113113113113113113"]⟩ := by
    rw [prepare, ReadingSet.ofText, fullLog, String.toList_ofList]
    decide +kernel
  obtain ⟨uplink, prepared, chunks⟩ := map_eq_ok_iff.mp cut
  have succeeded : (transmit (.ofSettings lineFeedSettings.serial lineFeedSettings.transport)
      uplink.chunks fitfulPort).outcome = .ok 2 := by
    rw [chunks]
    decide +kernel
  obtain ⟨commands, received, counted, _, _, delivered⟩ :=
    receivedCommands?_of_transmit valid (by decide) blank prepared succeeded
  rw [chunks] at counted
  exact ⟨uplink, prepared, commands, received, counted, congrArg Payload.text delivered.2⟩

end Uplink

end MeterUplink
