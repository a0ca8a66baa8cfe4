import MeterUplink.Proofs.Uplink.Decryption
import MeterUplink.Proofs.Uplink.Frames
import MeterUplink.Run

namespace MeterUplink

/-! Dry runs and live runs. Both prepare the same uplink, and only a live run that has one goes to
the port, so what a dry run shows is what a live run sends. -/

namespace Run

variable {openPort : PortOpening} {holder : Holder} {uplink : Uplink}

theorem outcome_prepare (files : Files) (holder : Holder) :
    (prepare files holder).outcome = readLog files holder >>= fun log =>
      (Uplink.prepare holder log).outcome.mapError .uplink := by
  rw [prepare, Journaled.outcome_bind, Journaled.outcome_ofExcept]
  rfl

theorem readLog_of_utf8 {files : Files} {log : String}
    (stored : files.read holder.logFilePath = .ok (Text.utf8Bytes log)) :
    readLog files holder = .ok log := by
  simp only [readLog, stored, Text.utf8Bytes, Text.decodeUtf8_encodeUtf8, String.ofList_toList]

theorem exists_prepare_of_prepare {files : Files}
    (prepared : (prepare files holder).outcome = .ok uplink) :
    ∃ log, readLog files holder = .ok log ∧ (Uplink.prepare holder log).outcome = .ok uplink := by
  rw [outcome_prepare] at prepared
  obtain ⟨log, read, prepared⟩ := bind_eq_ok_iff.mp prepared
  exact ⟨log, read, mapError_eq_ok_iff.mp prepared⟩

/-- The transmission of an uplink at the pace that the settings ask for. -/
def transmission (holder : Holder) (uplink : Uplink) (port : Modem.Port) :
    Modem.Exchange Modem.TransmissionError Nat :=
  Modem.transmit (.ofSettings holder.settings.serial holder.settings.transport) uplink.chunks port

/-- What sending an uplink comes to: the port is refused, or the transmission fails, or every
chunk is sent. -/
inductive Sends (openPort : PortOpening) (holder : Holder) (uplink : Uplink) :
    Except RunError RunSummary → PortUse → Prop where
  | refused {reason : String} (opening : openPort holder.settings.serial = .error reason) :
      Sends openPort holder uplink
        (.error (.transport (.portUnavailable holder.settings.serial.port reason))) .refused
  | failed {port : Modem.Port} {error : Modem.TransmissionError}
      (opening : openPort holder.settings.serial = .ok port)
      (failed : (transmission holder uplink port).outcome = .error error) :
      Sends openPort holder uplink (.error (.transport (.transmission error)))
        (.opened (transmission holder uplink port).port (transmission holder uplink port).events)
  | sent {port : Modem.Port} {frames : Nat}
      (opening : openPort holder.settings.serial = .ok port)
      (succeeded : (transmission holder uplink port).outcome = .ok frames) :
      Sends openPort holder uplink (.ok ⟨uplink, uplink.chunks.count⟩)
        (.opened (transmission holder uplink port).port (transmission holder uplink port).events)

theorem sends_send (openPort : PortOpening) (holder : Holder) (uplink : Uplink) :
    Sends openPort holder uplink (send openPort holder uplink).outcome
      (send openPort holder uplink).portUse := by
  cases opening : openPort holder.settings.serial with
  | error reason =>
      simp only [send, opening]
      exact .refused opening
  | ok port =>
      cases done : (transmission holder uplink port).outcome with
      | error error =>
          have failed := done
          rw [transmission] at failed
          simp only [send, opening, failed]
          exact .failed opening done
      | ok frames =>
          have succeeded := done
          rw [transmission] at succeeded
          obtain ⟨all, _⟩ := Modem.accepted_of_transmit succeeded
          simp only [send, opening, succeeded, all]
          exact .sent opening done

variable {outcome : Except RunError RunSummary} {portUse : PortUse}

theorem Sends.portUse_ne_untouched (sends : Sends openPort holder uplink outcome portUse) :
    portUse ≠ .untouched := by
  cases sends <;> nofun

theorem Sends.outcome_of_refused (sends : Sends openPort holder uplink outcome portUse)
    {reason : String} (opening : openPort holder.settings.serial = .error reason) :
    outcome = .error (.transport (.portUnavailable holder.settings.serial.port reason)) := by
  cases sends with
  | refused other => rw [Except.error.inj (opening.symm.trans other)]
  | failed other => cases opening.symm.trans other
  | sent other => cases opening.symm.trans other

theorem Sends.outcome_of_sent (sends : Sends openPort holder uplink outcome portUse)
    {port : Modem.Port} {frames : Nat} (opening : openPort holder.settings.serial = .ok port)
    (succeeded : (transmission holder uplink port).outcome = .ok frames) :
    outcome = .ok ⟨uplink, uplink.chunks.count⟩ := by
  cases sends with
  | refused other => cases opening.symm.trans other
  | failed other failed =>
      cases opening.symm.trans other
      cases succeeded.symm.trans failed
  | sent => rfl

theorem Sends.exists_transport {error : RunError}
    (sends : Sends openPort holder uplink (.error error) portUse) :
    ∃ cause, error = .transport cause := by
  cases sends <;> exact ⟨_, rfl⟩

/-- A live run of an uplink that has a chunk goes to the port. -/
theorem deliver_live (nonempty : uplink.chunks.texts ≠ []) :
    deliver openPort false holder uplink = send openPort holder uplink := by
  have notEmpty : uplink.chunks.isEmpty = false := List.isEmpty_eq_false_iff.mpr nonempty
  rw [deliver, if_neg Bool.false_ne_true, notEmpty, if_neg Bool.false_ne_true]

end Run

variable {files : Files} {holder : Holder} {uplink : Uplink}

theorem run_of_prepare_error (openPort : PortOpening) {error : RunError} (dryRun : Bool)
    (failed : (Run.prepare files holder).outcome = .error error) :
    (run files openPort dryRun holder).outcome = .error error ∧
      (run files openPort dryRun holder).portUse = .untouched := by
  simp only [run, failed, and_self]

theorem run_of_prepare_ok (openPort : PortOpening) (dryRun : Bool)
    (prepared : (Run.prepare files holder).outcome = .ok uplink) :
    (run files openPort dryRun holder).outcome =
        (Run.deliver openPort dryRun holder uplink).outcome ∧
      (run files openPort dryRun holder).portUse =
        (Run.deliver openPort dryRun holder uplink).portUse := by
  simp only [run, prepared, and_self]

theorem dry_run (files : Files) (openPort : PortOpening) (holder : Holder) :
    (run files openPort true holder).portUse = .untouched ∧
      (run files openPort true holder).outcome =
        (Run.prepare files holder).outcome.map fun uplink => ⟨uplink, 0⟩ := by
  cases prepared : (Run.prepare files holder).outcome with
  | error error =>
      obtain ⟨outcome, portUse⟩ := run_of_prepare_error openPort true prepared
      exact ⟨portUse, outcome⟩
  | ok uplink =>
      obtain ⟨outcome, portUse⟩ := run_of_prepare_ok openPort true prepared
      rw [outcome, portUse]
      exact ⟨rfl, rfl⟩

/-- A dry run stays away from the port and gives the uplink of the log. If it fails, so does the
live run, for the same reason and without touching the port; if not, there is something to send,
and the live run opens the port and sends just that. -/
theorem live_run_of_dry_run (files : Files) (openPort : PortOpening) (holder : Holder) :
    let dry := run files openPort true holder
    let live := run files openPort false holder
    (dry.portUse = .untouched ∧
      dry.outcome = (do
        let log ← Run.readLog files holder
        let uplink ← (Uplink.prepare holder log).outcome.mapError .uplink
        pure ⟨uplink, 0⟩)) ∧
    (∀ error, dry.outcome = .error error →
      live.outcome = .error error ∧ live.portUse = .untouched) ∧
    (∀ summary, dry.outcome = .ok summary →
      summary.uplink.chunks.texts ≠ [] ∧ live.portUse ≠ .untouched ∧
      Run.Sends openPort holder summary.uplink live.outcome live.portUse ∧
      ∀ error, live.outcome = .error error → ∃ cause, error = .transport cause) := by
  intro dry live
  obtain ⟨untouched, outcome⟩ := dry_run files openPort holder
  refine ⟨⟨untouched, ?_⟩, fun error failed => ?_, fun summary succeeded => ?_⟩
  · change (run files openPort true holder).outcome = _
    rw [outcome, Run.outcome_prepare]
    cases Run.readLog files holder with
    | error error => rfl
    | ok log => rfl
  · exact run_of_prepare_error openPort false (map_eq_error_iff.mp (outcome.symm.trans failed))
  · obtain ⟨uplink, prepared, rfl⟩ := map_eq_ok_iff.mp (outcome.symm.trans succeeded)
    obtain ⟨log, _, made⟩ := Run.exists_prepare_of_prepare prepared
    have nonempty := Uplink.texts_chunks_ne_nil made
    obtain ⟨liveOutcome, livePort⟩ := run_of_prepare_ok openPort false prepared
    have sends := Run.sends_send openPort holder uplink
    rw [← Run.deliver_live nonempty, ← liveOutcome, ← livePort] at sends
    refine ⟨nonempty, sends.portUse_ne_untouched, sends, fun error failed => ?_⟩
    exact (failed ▸ sends).exists_transport

/-- The same log twice: over a port that takes everything, and where there is no port. -/
theorem live_run_of_standardLog :
    let files : Files := ⟨fun _ => .ok (Text.utf8Bytes (Uplink.standardLog "1D:20"))⟩
    let holder : Holder := ⟨{}, "", .standard, none⟩
    let willing : PortOpening := fun _ => .ok {}
    let missing : PortOpening := fun _ => .error "No such file or directory"
    ∃ uplink, (run files willing true holder).outcome = .ok ⟨uplink, 0⟩ ∧
      (run files willing false holder).outcome = .ok ⟨uplink, 2⟩ ∧
      (run files missing false holder).outcome =
        .error (.transport (.portUnavailable "/dev/ttyUSB0" "No such file or directory")) := by
  intro files holder willing missing
  obtain ⟨readings, extracted, encoded⟩ := Uplink.exists_encode_standardLog
  let chunks : Chunks := ⟨["1D2011311311311311311311", "3113113113113113"]⟩
  let uplink : Uplink := ⟨readings, ⟨"1D20113113113113113113113113113113113113"⟩, none, chunks⟩
  have cut : Payload.cut ⟨"1D20113113113113113113113113113113113113"⟩ 24 =
      .ok ⟨["1D2011311311311311311311", "3113113113113113"]⟩ := by decide +kernel
  have sent : (Modem.transmit (.ofSettings {} {})
      ⟨["1D2011311311311311311311", "3113113113113113"]⟩ {}).outcome = .ok 2 := by decide +kernel
  have prepared : (Run.prepare files holder).outcome = .ok uplink := by
    have made : (Uplink.prepare holder (Uplink.standardLog "1D:20")).outcome = .ok uplink :=
      Uplink.prepare_eq_ok_iff.mpr ⟨extracted, encoded, rfl, cut⟩
    rw [Run.outcome_prepare]
    exact bind_eq_ok_iff.mpr ⟨_, Run.readLog_of_utf8 rfl, mapError_eq_ok_iff.mpr made⟩
  have dry (openPort : PortOpening) :
      (run files openPort true holder).outcome = .ok ⟨uplink, 0⟩ := by
    rw [(dry_run files openPort holder).2, prepared]
    rfl
  refine ⟨uplink, dry _, ?_, ?_⟩
  · have ⟨_, _, predicted⟩ := live_run_of_dry_run files willing holder
    obtain ⟨_, _, sends, _⟩ := predicted _ (dry _)
    exact sends.outcome_of_sent rfl sent
  · have ⟨_, _, predicted⟩ := live_run_of_dry_run files missing holder
    obtain ⟨_, _, sends, _⟩ := predicted _ (dry _)
    exact sends.outcome_of_refused rfl

end MeterUplink
