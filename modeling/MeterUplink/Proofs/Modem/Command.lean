import MeterUplink.Modem.Transmission
import MeterUplink.Proofs.Modem.Port

namespace MeterUplink.Modem

/-! The fate of one command: either all of it was accepted and a reply was read, if there was
one, or the port gave cause to fail. Each cause tells how much of the command was accepted. -/

/-- The far end, left alone, accepts all of the command before the timeout is over. -/
def AcceptsInTime (timing : Timing) (command : Command) (start : Port) : Prop :=
  ∃ time ≤ start.clock + timing.writeTimeout,
    writeEnd start.clock (command.encode timing.terminator) start.writes = .accepted time

def Port.Flushes (port : Port) : Prop :=
  port.flushes = [] ∨ ∃ rest, port.flushes = .done :: rest

/-- The causes for which a command fails on a port, with the fault that is reported and the part
of the command's bytes that was accepted. -/
inductive CommandFails (timing : Timing) (command : Command) (start : Port) :
    PortFault → List UInt8 → Prop where
  | writeReported {text : String} {time : Nat} {part : List UInt8}
      (ends : writeEnd start.clock (command.encode timing.terminator) start.writes =
        .refused (.reported text) time)
      (inTime : time ≤ start.clock + timing.writeTimeout)
      (cut : part <+: command.encode timing.terminator) :
      CommandFails timing command start (.reported text) part
  | nothingWritten {time : Nat} {part : List UInt8}
      (ends : writeEnd start.clock (command.encode timing.terminator) start.writes =
        .refused .nothingWritten time)
      (inTime : time ≤ start.clock + timing.writeTimeout)
      (cut : part <+: command.encode timing.terminator) :
      CommandFails timing command start .nothingWritten part
  | writeLate {part : List UInt8}
      (late : ¬ (writeEnd start.clock (command.encode timing.terminator) start.writes).EndsBy
        (start.clock + timing.writeTimeout))
      (cut : part <+: command.encode timing.terminator) :
      CommandFails timing command start .timedOut part
  | flushReported {text : String} {rest : List FlushStep}
      (written : AcceptsInTime timing command start)
      (next : start.flushes = .fails text :: rest) :
      CommandFails timing command start (.reported text) (command.encode timing.terminator)
  | flushLate {rest : List FlushStep} (written : AcceptsInTime timing command start)
      (next : start.flushes = .block :: rest) :
      CommandFails timing command start .timedOut (command.encode timing.terminator)
  | readReported {text : String} {skipped rest : List ReadStep}
      (written : AcceptsInTime timing command start) (flushed : start.Flushes)
      (silent : ∀ step ∈ skipped, step.Silent)
      (next : start.reads = skipped ++ .fails text :: rest) :
      CommandFails timing command start (.reported text) (command.encode timing.terminator)

theorem CommandFails.cut {timing : Timing} {command : Command} {start : Port} {fault : PortFault}
    {part : List UInt8} (fails : CommandFails timing command start fault part) :
    part <+: command.encode timing.terminator := by
  cases fails with
  | writeReported ends inTime cut => exact cut
  | nothingWritten ends inTime cut => exact cut
  | writeLate late cut => exact cut
  | flushReported written next => exact List.prefix_rfl
  | flushLate written next => exact List.prefix_rfl
  | readReported written flushed silent next => exact List.prefix_rfl

theorem writeCommand_apply (timing : Timing) (command : Command) (port : Port) :
    writeCommand timing command port =
      (Session.write (port.clock + timing.writeTimeout) (command.encode timing.terminator) >>=
        fun _ => Session.flush (port.clock + timing.writeTimeout)) port := rfl

theorem readReply_apply (timing : Timing) (port : Port) :
    readReply timing port =
      (Session.read (port.clock + timing.readTimeout) >>= fun bytes =>
        pure (bytes.map fun bytes => String.ofList (Text.decodeUtf8 bytes))) port := rfl

inductive WriteResult (timing : Timing) (command : Command) (start : Port)
    (done : Exchange PortFault Unit) : Prop where
  | whole (written : AcceptsInTime timing command start) (flushed : start.Flushes)
      (outcome : done.outcome = .ok ()) (reads : done.port.reads = start.reads)
      (bytes : accepted done.events = command.encode timing.terminator)
  | failed {fault : PortFault} (outcome : done.outcome = .error fault)
      (cause : CommandFails timing command start fault (accepted done.events))

theorem writeCommand_result (timing : Timing) (command : Command) (start : Port) :
    WriteResult timing command start (writeCommand timing command start) := by
  rw [writeCommand_apply]
  cases sendBytes_result (command.encode timing.terminator) start.writes
    (Nat.le_add_right start.clock timing.writeTimeout) with
  | refused ends inTime outcome clock part =>
      rw [Session.bind_apply_of_error outcome]
      refine .failed rfl ?_
      rename_i fault time
      cases fault with
      | reported text => exact .writeReported ends inTime part
      | nothingWritten => exact .nothingWritten ends inTime part
      | timedOut => exact absurd ends writeEnd_ne_refused_timedOut
  | late late outcome clock part =>
      rw [Session.bind_apply_of_error outcome]
      exact .failed rfl (.writeLate late part)
  | whole ends inTime outcome clock bytes =>
      have written : AcceptsInTime timing command start := ⟨_, inTime, ends⟩
      rw [Session.bind_apply_of_ok outcome]
      cases next : start.flushes with
      | nil =>
          simp only [Session.flush, Session.write, next]
          exact .whole written (.inl next) rfl rfl (by rw [List.append_nil]; exact bytes)
      | cons step rest =>
          cases step with
          | done =>
              simp only [Session.flush, Session.write, next]
              exact .whole written (.inr ⟨rest, next⟩) rfl rfl
                (by rw [List.append_nil]; exact bytes)
          | block =>
              simp only [Session.flush, Session.write, next]
              refine .failed rfl ?_
              rw [List.append_nil, bytes]
              exact .flushLate written next
          | fails text =>
              simp only [Session.flush, Session.write, next]
              refine .failed rfl ?_
              rw [List.append_nil, bytes]
              exact .flushReported written next

/-- Reading a reply sends nothing, and fails only where the far end says so. -/
theorem readReply_result (timing : Timing) (start : Port) :
    accepted (readReply timing start).events = [] ∧
      ∀ fault, (readReply timing start).outcome = .error fault →
        ∃ text skipped rest, fault = .reported text ∧ (∀ step ∈ skipped, step.Silent) ∧
          start.reads = skipped ++ .fails text :: rest := by
  rw [readReply_apply]
  have nothing : accepted (Session.read (start.clock + timing.readTimeout) start).events = [] := by
    simp only [Session.read]
    split <;> rfl
  cases outcome : (Session.read (start.clock + timing.readTimeout) start).outcome with
  | error fault =>
      rw [Session.bind_apply_of_error outcome]
      refine ⟨nothing, fun other failed => ?_⟩
      cases failed
      obtain ⟨text, skipped, reported, silent, split⟩ := receiveBytes_failed outcome
      exact ⟨text, skipped, _, reported, silent, split⟩
  | ok bytes =>
      rw [Session.bind_apply_of_ok outcome]
      simp only [Session.pure_apply, List.append_nil]
      exact ⟨nothing, fun fault failed => nomatch failed⟩

theorem quiet_noteReply (command : Command) (reply : String) :
    Session.quiet (noteReply command reply) = pure () := by
  rw [noteReply]
  split <;> rfl

/-- The record of what was read, if anything was. -/
def noteRead (command : Command) : Option String → Session PortFault Unit
  | some text => noteReply command text
  | none => pure ()

theorem sendCommand_eq (timing : Timing) (command : Command) :
    sendCommand timing command = Session.mapError (⟨command, ·⟩) (do
      Session.emit .debug s!"-> {command.text}"
      writeCommand timing command
      let reply ← readReply timing
      noteRead command reply
      pure reply) := by
  rw [sendCommand]
  congr 2
  funext _
  congr 1
  funext _
  congr 1
  funext reply
  cases reply with
  | some text => rfl
  | none => rfl

theorem quiet_noteRead (command : Command) (reply : Option String) :
    Session.quiet (noteRead command reply) = pure () := by
  cases reply with
  | some text => exact quiet_noteReply command text
  | none => rfl

/-- The journal apart, sending a command is writing it and reading a reply. -/
theorem quiet_sendCommand (timing : Timing) (command : Command) :
    Session.quiet (sendCommand timing command) =
      Session.mapError (⟨command, ·⟩) (Session.quiet (writeCommand timing command) >>= fun _ =>
        Session.quiet (readReply timing)) := by
  simp only [sendCommand_eq, Session.quiet_mapError, Session.quiet_bind, Session.quiet_emit,
    quiet_noteRead, Session.quiet_pure, pure_bind, bind_pure]

inductive CommandResult (timing : Timing) (command : Command) (start : Port)
    (done : Exchange TransmissionError (Option String)) : Prop where
  | whole {reply : Option String} (outcome : done.outcome = .ok reply)
      (bytes : accepted done.events = command.encode timing.terminator)
  | failed {fault : PortFault} (outcome : done.outcome = .error ⟨command, fault⟩)
      (cause : CommandFails timing command start fault (accepted done.events))

theorem sendCommand_result (timing : Timing) (command : Command) (start : Port) :
    CommandResult timing command start (sendCommand timing command start) := by
  have quietly := congrFun (quiet_sendCommand timing command) start
  have sameOutcome := congrArg Exchange.outcome quietly
  have sameEvents := congrArg Exchange.events quietly
  rw [Session.outcome_quiet] at sameOutcome
  rw [Session.events_quiet] at sameEvents
  simp only [Session.mapError] at sameOutcome sameEvents
  cases writeCommand_result timing command start with
  | failed outcome cause =>
      have written : (Session.quiet (writeCommand timing command) start).outcome = _ := outcome
      rw [Session.bind_apply_of_error written] at sameOutcome sameEvents
      exact .failed sameOutcome (sameEvents ▸ cause)
  | whole written flushed outcome reads bytes =>
      have sent : (Session.quiet (writeCommand timing command) start).outcome = _ := outcome
      rw [Session.bind_apply_of_ok sent] at sameOutcome sameEvents
      obtain ⟨nothing, failure⟩ := readReply_result timing (writeCommand timing command start).port
      have all : accepted (sendCommand timing command start).events =
          command.encode timing.terminator := by
        rw [sameEvents, accepted_append]
        simp only [Session.events_quiet, Session.port_quiet, bytes, nothing, List.append_nil]
      simp only [Session.port_quiet, Session.outcome_quiet] at sameOutcome
      cases read : (readReply timing (writeCommand timing command start).port).outcome with
      | ok reply => exact .whole (by rw [sameOutcome, read]; rfl) all
      | error fault =>
          obtain ⟨text, skipped, rest, rfl, silent, split⟩ := failure fault read
          rw [reads] at split
          refine .failed (by rw [sameOutcome, read]; rfl) ?_
          rw [all]
          exact .readReported written flushed silent split

end MeterUplink.Modem
