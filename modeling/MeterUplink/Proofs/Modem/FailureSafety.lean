import MeterUplink.Proofs.Modem.Command
import MeterUplink.Proofs.Modem.Plan
import MeterUplink.Proofs.Text.Utf8

namespace MeterUplink.Modem

/-! Failure safety of a session. Wherever a transmission fails, the port has accepted the
commands in front of the one that failed and a piece of that one, and nothing else. -/

def wireBytes (terminator : String) (commands : List Command) : List UInt8 :=
  commands.flatMap (·.encode terminator)

@[simp] theorem wireBytes_nil (terminator : String) : wireBytes terminator [] = [] := rfl

@[simp] theorem wireBytes_cons (terminator : String) (command : Command) (rest : List Command) :
    wireBytes terminator (command :: rest) =
      command.encode terminator ++ wireBytes terminator rest := rfl

@[simp] theorem wireBytes_append (terminator : String) (before after : List Command) :
    wireBytes terminator (before ++ after) =
      wireBytes terminator before ++ wireBytes terminator after :=
  List.flatMap_append

/-- The text that a transmission of chunks puts on the line. -/
def wireText (terminator : String) (chunks : List String) : String :=
  String.join (chunks.map fun chunk =>
    "AT$GI?" ++ terminator ++ ("AT$RC" ++ terminator) ++ ("AT$SF=" ++ chunk ++ terminator))

theorem wireBytes_frameCommands (terminator : String) (chunks : List String) :
    wireBytes terminator (chunks.flatMap frameCommands) =
      Text.utf8Bytes (wireText terminator chunks) := by
  induction chunks with
  | nil => rfl
  | cons chunk rest ih =>
      rw [List.flatMap_cons, wireBytes_append, ih, wireText, wireText, List.map_cons,
        String.join_cons, Text.utf8Bytes_append, Text.utf8Bytes_append, Text.utf8Bytes_append]
      simp only [frameCommands, wireBytes_cons, wireBytes_nil, List.append_nil, Command.encode,
        Command.text, List.append_assoc]

inductive ActionResult (timing : Timing) (action : Action) (port : Port)
    (done : Exchange TransmissionError Unit) : Prop where
  | whole (outcome : done.outcome = .ok ())
      (bytes : accepted done.events = wireBytes timing.terminator (commandsOf [action]))
  | failed {command : Command} {fault : PortFault} (sends : action = .send command)
      (cause : CommandFails timing command port fault (accepted done.events))
      (outcome : done.outcome = .error ⟨command, fault⟩)

theorem Action.perform_result (timing : Timing) (action : Action) (port : Port) :
    ActionResult timing action port (action.perform timing port) := by
  cases action with
  | wait duration => exact .whole rfl rfl
  | send command =>
      rw [Action.perform_send]
      cases sendCommand_result timing command port with
      | whole outcome bytes =>
          have alone : wireBytes timing.terminator (commandsOf [.send command]) =
              command.encode timing.terminator := List.append_nil _
          exact .whole (congrArg (·.map fun _ => ()) outcome) (bytes.trans alone.symm)
      | failed outcome cause =>
          exact .failed rfl cause (congrArg (·.map fun _ => ()) outcome)

inductive PerformResult (timing : Timing) (actions : List Action) (port : Port)
    (done : Exchange TransmissionError Unit) : Prop where
  | whole (outcome : done.outcome = .ok ())
      (bytes : accepted done.events = wireBytes timing.terminator (commandsOf actions))
  | failed {before after : List Action} {command : Command} {fault : PortFault}
      {part : List UInt8} (place : actions = before ++ .send command :: after)
      (reached : (perform timing before port).outcome = .ok ())
      (cause : CommandFails timing command (perform timing before port).port fault part)
      (outcome : done.outcome = .error ⟨command, fault⟩)
      (bytes : accepted done.events =
        wireBytes timing.terminator (commandsOf before) ++ part)

theorem perform_result (timing : Timing) (actions : List Action) (port : Port) :
    PerformResult timing actions port (perform timing actions port) := by
  -- The port is general: what the first action leaves is where the rest of them start.
  induction actions generalizing port with
  | nil => exact .whole rfl rfl
  | cons action rest ih =>
      have split (others : List Action) : commandsOf (action :: others) =
          commandsOf [action] ++ commandsOf others := commandsOf_append [action] others
      cases action.perform_result timing port with
      | failed sends cause outcome =>
          subst sends
          rw [perform, Session.bind_apply_of_error outcome]
          exact .failed (List.nil_append _).symm rfl cause rfl rfl
      | whole outcome bytes =>
          rw [perform_cons_of_ok rest outcome]
          cases ih (action.perform timing port).port with
          | whole later laterBytes =>
              refine .whole later ?_
              rw [accepted_append, bytes, laterBytes, split rest, wireBytes_append]
          | failed place reached cause later laterBytes =>
              rename_i before after command fault part
              have through := perform_cons_of_ok before outcome
              have further : action :: rest = (action :: before) ++ .send command :: after :=
                congrArg (action :: ·) place
              refine .failed further (by rw [through]; exact reached)
                (by rw [through]; exact cause) later ?_
              rw [accepted_append, bytes, laterBytes, split before, wireBytes_append,
                List.append_assoc]

/-- The port as a transmission finds it when it comes to a command, after the earlier ones. -/
def StartsAt (timing : Timing) (chunks : Chunks) (port : Port) (earlier : List Command)
    (command : Command) (start : Port) : Prop :=
  ∃ before after, plan timing chunks = before ++ .send command :: after ∧
    commandsOf before = earlier ∧ (perform timing before port).outcome = .ok () ∧
    (perform timing before port).port = start

/-- What one transmission contributes to the bytes that the port accepts. One that fails names
the command that failed; of that command only a part need have been accepted. -/
inductive Segment (timing : Timing) (chunks : Chunks) (port : Port) :
    Except TransmissionError Nat → List UInt8 → Prop where
  | sent : Segment timing chunks port (.ok chunks.count)
      (Text.utf8Bytes (wireText timing.terminator chunks.texts))
  | cut {earlier later : List Command} {command : Command} {start : Port} {fault : PortFault}
      {part : List UInt8}
      (order : chunks.texts.flatMap frameCommands = earlier ++ command :: later)
      (reached : StartsAt timing chunks port earlier command start)
      (cause : CommandFails timing command start fault part) :
      Segment timing chunks port (.error ⟨command, fault⟩)
        (wireBytes timing.terminator earlier ++ part)

theorem transmit_segment (timing : Timing) (chunks : Chunks) (port : Port) :
    Segment timing chunks port (transmit timing chunks port).outcome
      (accepted (transmit timing chunks port).events) := by
  rw [outcome_transmit, events_transmit]
  have all := commandsOf_plan timing chunks
  cases perform_result timing (plan timing chunks) port with
  | whole outcome bytes =>
      rw [outcome, bytes, all, wireBytes_frameCommands]
      exact .sent
  | failed place reached cause outcome bytes =>
      rw [outcome, bytes]
      rename_i before after command fault part
      have order : chunks.texts.flatMap frameCommands =
          commandsOf before ++ command :: commandsOf after := by
        rw [← all, place, commandsOf_append, commandsOf_send]
      exact .cut order ⟨before, after, place, rfl, reached, rfl⟩ cause

/-- Transmissions of one modem, each on the port that the one before it leaves, also if that one
failed. -/
def transmitEach (timing : Timing) : List Chunks → Port →
    List (Exchange TransmissionError Nat)
  | [], _ => []
  | chunks :: rest, port =>
    let done := transmit timing chunks port
    done :: transmitEach timing rest done.port

/-- The segments of transmissions that follow each other on one port. -/
inductive Segments (timing : Timing) : Port → List Chunks →
    List (Exchange TransmissionError Nat) → List (List UInt8) → Prop where
  | nil {port : Port} : Segments timing port [] [] []
  | cons {port : Port} {chunks : Chunks} {rest : List Chunks}
      {done : Exchange TransmissionError Nat} {later : List (Exchange TransmissionError Nat)}
      {segment : List UInt8} {segments : List (List UInt8)}
      (first : Segment timing chunks port done.outcome segment)
      (others : Segments timing done.port rest later segments) :
      Segments timing port (chunks :: rest) (done :: later) (segment :: segments)

/-- The bytes that a port accepts in any number of transmissions are the segments of these, one
behind another. -/
theorem transmitEach_segments (timing : Timing) (port : Port) (sequences : List Chunks) :
    ∃ segments, Segments timing port sequences (transmitEach timing sequences port) segments ∧
      accepted ((transmitEach timing sequences port).flatMap (·.events)) = segments.flatten := by
  induction sequences generalizing port with
  | nil => exact ⟨[], .nil, rfl⟩
  | cons chunks rest ih =>
      obtain ⟨segments, served, bytes⟩ := ih (transmit timing chunks port).port
      refine ⟨_ :: segments, .cons (transmit_segment timing chunks port) served, ?_⟩
      rw [transmitEach, List.flatMap_cons, accepted_append, List.flatten_cons]
      exact congrArg _ bytes

end MeterUplink.Modem
