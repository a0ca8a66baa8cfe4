import Mathlib.Algebra.Ring.Nat
import MeterUplink.Proofs.Journal
import MeterUplink.Proofs.Modem.Clock

namespace MeterUplink.Modem

/-! What commands add to the clock. The port decides how long it takes the bytes of a command and
how long it lets a reply be waited for, and each has a timeout of its own. -/

theorem clock_flush {deadline : Nat} {port : Port} (inTime : port.clock ≤ deadline) :
    (Session.flush deadline port).port.clock ≤ deadline := by
  rw [Session.flush]
  split
  · exact inTime
  · exact inTime
  · exact Nat.le_refl _
  · exact inTime

theorem clock_writeCommand_le (timing : Timing) (command : Command) (port : Port) :
    (writeCommand timing command port).port.clock ≤ port.clock + timing.writeTimeout := by
  obtain ⟨_, high, _⟩ := sendBytes_within (command.encode timing.terminator) port.writes
    (Nat.le_add_right port.clock timing.writeTimeout)
  rw [writeCommand_apply]
  cases written : (Session.write (port.clock + timing.writeTimeout)
      (command.encode timing.terminator) port).outcome with
  | error fault =>
      rw [Session.bind_apply_of_error written]
      exact high
  | ok _ =>
      rw [Session.bind_apply_of_ok written]
      exact clock_flush high

theorem port_readReply (timing : Timing) (port : Port) :
    (readReply timing port).port =
      (Session.read (port.clock + timing.readTimeout) port).port := by
  rw [readReply_apply]
  cases read : (Session.read (port.clock + timing.readTimeout) port).outcome with
  | error fault => rw [Session.bind_apply_of_error read]
  | ok bytes =>
      rw [Session.bind_apply_of_ok read]
      rfl

theorem clock_readReply_le (timing : Timing) (port : Port) :
    (readReply timing port).port.clock ≤ port.clock + timing.readTimeout := by
  rw [port_readReply]
  exact (clock_receiveBytes port.reads (Nat.le_add_right _ _)).2

/-- Between its last byte and the end of a command there is nothing but the read. -/
theorem port_sendCommand (timing : Timing) (command : Command) (port : Port) :
    (sendCommand timing command port).port =
      match (writeCommand timing command port).outcome with
      | .error _ => (writeCommand timing command port).port
      | .ok _ => (readReply timing (writeCommand timing command port).port).port := by
  have quietly := congrArg Exchange.port (congrFun (quiet_sendCommand timing command) port)
  rw [Session.port_quiet] at quietly
  rw [quietly]
  cases outcome : (writeCommand timing command port).outcome with
  | error fault =>
      have failed : (Session.quiet (writeCommand timing command) port).outcome = .error fault :=
        outcome
      simp only [Session.mapError, Session.bind_apply_of_error failed, Session.port_quiet]
  | ok _ =>
      have succeeded : (Session.quiet (writeCommand timing command) port).outcome = .ok () :=
        outcome
      simp only [Session.mapError, Session.bind_apply_of_ok succeeded, Session.port_quiet]

theorem writeCommand_of_sendCommand {timing : Timing} {command : Command} {port : Port}
    {reply : Option String} (answered : (sendCommand timing command port).outcome = .ok reply) :
    (writeCommand timing command port).outcome = .ok () := by
  rw [sendCommand_eq] at answered
  obtain ⟨_, _, inner, _⟩ := Session.exists_of_bind_ok (mapError_eq_ok_iff.mp answered)
  obtain ⟨_, written, _, _⟩ := Session.exists_of_bind_ok inner
  exact written

/-- The time that a command takes until all of it is accepted and flushed, and then until its reply
is read or the wait for one is over. -/
structure CommandTime where
  writing : Nat
  reading : Nat
deriving Repr, DecidableEq

def commandTime (timing : Timing) (command : Command) (start : Port) : CommandTime :=
  let written := (writeCommand timing command start).port
  ⟨written.clock - start.clock, (readReply timing written).port.clock - written.clock⟩

theorem commandTime_le (timing : Timing) (command : Command) (start : Port) :
    (commandTime timing command start).writing ≤ timing.writeTimeout ∧
      (commandTime timing command start).reading ≤ timing.readTimeout := by
  have written := clock_writeCommand_le timing command start
  have read := clock_readReply_le timing (writeCommand timing command start).port
  simp only [commandTime]
  omega

theorem clock_sendCommand_of_ok {timing : Timing} {command : Command} {port : Port}
    {reply : Option String} (answered : (sendCommand timing command port).outcome = .ok reply) :
    (sendCommand timing command port).port.clock = port.clock +
      ((commandTime timing command port).writing + (commandTime timing command port).reading) := by
  have written := (timely_writeCommand timing command port).ordered
  have read := (timely_readReply timing (writeCommand timing command port).port).ordered
  rw [port_sendCommand, writeCommand_of_sendCommand answered]
  simp only [commandTime]
  omega

theorem clock_sendCommand_le (timing : Timing) (command : Command) (port : Port) :
    (sendCommand timing command port).port.clock ≤
      port.clock + (timing.writeTimeout + timing.readTimeout) := by
  have written := clock_writeCommand_le timing command port
  have read := clock_readReply_le timing (writeCommand timing command port).port
  rw [port_sendCommand]
  split <;> omega

/-- The times of the commands among some actions, each from the port that it starts on. -/
def commandTimes (timing : Timing) : List Action → Port → List CommandTime
  | [], _ => []
  | .wait duration :: rest, port =>
    commandTimes timing rest ((Action.wait duration).perform timing port).port
  | .send command :: rest, port =>
    commandTime timing command port ::
      commandTimes timing rest ((Action.send command).perform timing port).port

theorem length_commandTimes (timing : Timing) (actions : List Action) (port : Port) :
    (commandTimes timing actions port).length = (commandsOf actions).length := by
  induction actions generalizing port with
  | nil => rfl
  | cons action rest ih =>
      cases action with
      | wait duration => rw [commandTimes, ih, commandsOf_wait]
      | send command => rw [commandTimes, List.length_cons, ih, commandsOf_send, List.length_cons]

theorem commandTimes_le (timing : Timing) (actions : List Action) (port : Port) :
    ∀ time ∈ commandTimes timing actions port,
      time.writing ≤ timing.writeTimeout ∧ time.reading ≤ timing.readTimeout := by
  induction actions generalizing port with
  | nil => exact List.forall_mem_nil _
  | cons action rest ih =>
      cases action with
      | wait duration => exact ih _
      | send command => exact List.forall_mem_cons.mpr ⟨commandTime_le timing command port, ih _⟩

/-- Actions that succeed take the time of their waits and the times of their commands. -/
theorem clock_perform_of_ok {timing : Timing} {actions : List Action} {port : Port}
    (succeeded : (perform timing actions port).outcome = .ok ()) :
    (perform timing actions port).port.clock = port.clock +
      (waiting actions + ((commandTimes timing actions port).map (·.writing)).sum +
        ((commandTimes timing actions port).map (·.reading)).sum) := by
  induction actions generalizing port with
  | nil => rfl
  | cons action rest ih =>
      obtain ⟨_, first, later, _⟩ := Session.exists_of_bind_ok succeeded
      have after := ih later
      rw [perform_cons_of_ok rest first]
      cases action with
      | wait duration =>
          have woken : ((Action.wait duration).perform timing port).port.clock =
              port.clock + lasting duration := rfl
          simp only [after, woken, waiting, commandTimes]
          omega
      | send command =>
          have sent := Action.perform_send timing command port
          have answered : ∃ reply, (sendCommand timing command port).outcome = .ok reply := by
            rw [sent] at first
            obtain ⟨reply, answered, _⟩ := map_eq_ok_iff.mp first
            exact ⟨reply, answered⟩
          obtain ⟨reply, answered⟩ := answered
          have taken : ((Action.send command).perform timing port).port.clock = _ :=
            (congrArg (·.port.clock) sent).trans (clock_sendCommand_of_ok answered)
          simp only [after, taken, waiting, commandTimes, List.map_cons, List.sum_cons]
          omega

theorem clock_perform_le (timing : Timing) (actions : List Action) (port : Port) :
    (perform timing actions port).port.clock ≤ port.clock +
      (waiting actions +
        (commandsOf actions).length * (timing.writeTimeout + timing.readTimeout)) := by
  induction actions generalizing port with
  | nil => exact Nat.le_add_right _ _
  | cons action rest ih =>
      have step : (action.perform timing port).port.clock ≤ port.clock +
          (waiting [action] +
            (commandsOf [action]).length * (timing.writeTimeout + timing.readTimeout)) := by
        cases action with
        | wait duration =>
            exact Nat.add_le_add_left (Nat.le_add_right (lasting duration) _) port.clock
        | send command =>
            rw [Action.perform_send]
            simpa [waiting, commandsOf] using clock_sendCommand_le timing command port
      have waits : waiting (action :: rest) = waiting [action] + waiting rest :=
        waiting_append [action] rest
      have commands : (commandsOf (action :: rest)).length =
          (commandsOf [action]).length + (commandsOf rest).length := by
        rw [← List.length_append]
        exact congrArg List.length (commandsOf_append [action] rest)
      rw [waits, commands, Nat.add_mul]
      cases first : (action.perform timing port).outcome with
      | error e =>
          rw [perform, Session.bind_apply_of_error first]
          simp only
          omega
      | ok _ =>
          have later := ih (action.perform timing port).port
          rw [perform_cons_of_ok rest first]
          simp only
          omega

end MeterUplink.Modem
