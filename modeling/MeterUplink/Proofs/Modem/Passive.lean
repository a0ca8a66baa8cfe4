import MeterUplink.Proofs.Modem.CommandTime

namespace MeterUplink.Modem

/-! Ports that take every byte at once and never answer. They stay so whatever is sent, and every
command takes the time of the wait for its reply. -/

/-- A step that accepts something at the given time and does not fail. -/
def WriteStep.Prompt (clock : Nat) : WriteStep → Prop
  | .acceptAll => True
  | .acceptAtMost count => count ≠ 0
  | .after delay => delay = 0
  | .readyAt time => time ≤ clock
  | .block => False
  | .interrupted => True
  | .fails _ => False

theorem WriteStep.Prompt.mono {clock later : Nat} {step : WriteStep} (prompt : step.Prompt clock)
    (order : clock ≤ later) : step.Prompt later := by
  cases step with
  | readyAt time => exact Nat.le_trans prompt order
  | acceptAll => exact prompt
  | acceptAtMost count => exact prompt
  | after delay => exact prompt
  | block => exact prompt
  | interrupted => exact prompt
  | fails text => exact prompt

structure Port.Passive (port : Port) : Prop where
  writes : ∀ step ∈ port.writes, step.Prompt port.clock
  flushes : ∀ step ∈ port.flushes, step = .done
  reads : ∀ step ∈ port.reads, step.Silent

theorem sendBytes_of_prompt {deadline clock : Nat} (pending : List UInt8) {steps : List WriteStep}
    (inTime : clock ≤ deadline) (prompt : ∀ step ∈ steps, step.Prompt clock) :
    (sendBytes deadline clock pending steps).outcome = .ok () ∧
      (sendBytes deadline clock pending steps).clock = clock ∧
      ∀ step ∈ (sendBytes deadline clock pending steps).remaining, step ∈ steps := by
  induction steps generalizing pending with
  | nil => exact ⟨rfl, rfl, fun _ member => member⟩
  | cons step rest ih =>
      obtain ⟨now, later⟩ := List.forall_mem_cons.mp prompt
      have left {remaining : List WriteStep} (inRest : ∀ step ∈ remaining, step ∈ rest) :
          ∀ other ∈ remaining, other ∈ step :: rest :=
        fun other member => List.mem_cons_of_mem step (inRest other member)
      cases step with
      | acceptAll => exact ⟨rfl, rfl, left fun _ member => member⟩
      | acceptAtMost count =>
          have some : count ≠ 0 := now
          simp only [sendBytes, some, if_false]
          split
          · exact ⟨rfl, rfl, left fun _ member => member⟩
          · obtain ⟨outcome, still, inRest⟩ := ih (pending.drop count) later
            exact ⟨outcome, still, left inRest⟩
      | after delay =>
          obtain rfl : delay = 0 := now
          have same : endOfWait clock 0 = clock := rfl
          simp only [sendBytes, same, inTime, if_true]
          obtain ⟨outcome, still, inRest⟩ := ih pending later
          exact ⟨outcome, still, left inRest⟩
      | readyAt time =>
          have same : max clock time = clock := Nat.max_eq_left now
          simp only [sendBytes, same, inTime, if_true]
          obtain ⟨outcome, still, inRest⟩ := ih pending later
          exact ⟨outcome, still, left inRest⟩
      | block => exact now.elim
      | interrupted =>
          obtain ⟨outcome, still, inRest⟩ := ih pending later
          exact ⟨outcome, still, left inRest⟩
      | fails text => exact now.elim

theorem receiveBytes_of_silent (deadline clock : Nat) {steps : List ReadStep}
    (silent : ∀ step ∈ steps, step.Silent) :
    (receiveBytes deadline clock steps).outcome = .ok none ∧
      (receiveBytes deadline clock steps).clock = deadline ∧
      ∀ step ∈ (receiveBytes deadline clock steps).remaining, step.Silent := by
  induction steps generalizing clock with
  | nil => exact ⟨rfl, rfl, silent⟩
  | cons step rest ih =>
      obtain ⟨now, later⟩ := List.forall_mem_cons.mp silent
      cases step with
      | bytes data =>
          obtain rfl : data = [] := now
          exact ih _ later
      | after delay =>
          simp only [receiveBytes]
          split
          · exact ih _ later
          · exact ⟨rfl, rfl, List.forall_mem_cons.mpr ⟨trivial, later⟩⟩
      | readyAt time =>
          simp only [receiveBytes]
          split
          · exact ih _ later
          · exact ⟨rfl, rfl, List.forall_mem_cons.mpr ⟨trivial, later⟩⟩
      | endOfFile => exact now.elim
      | fails text => exact now.elim

theorem flush_of_done (deadline : Nat) (port : Port)
    (done : ∀ step ∈ port.flushes, step = .done) :
    (Session.flush deadline port).outcome = .ok () ∧
      ∃ rest, (Session.flush deadline port).port = { port with flushes := rest } ∧
        ∀ step ∈ rest, step = .done := by
  obtain ⟨clock, reads, writes, flushes⟩ := port
  cases flushes with
  | nil => exact ⟨rfl, [], rfl, done⟩
  | cons step rest =>
      obtain ⟨rfl, others⟩ := List.forall_mem_cons.mp done
      exact ⟨rfl, rest, rfl, others⟩

namespace Port.Passive

variable {port : Port}

theorem wait (passive : port.Passive) {clock : Nat} (order : port.clock ≤ clock) :
    Port.Passive { port with clock } :=
  { passive with writes := fun step member => (passive.writes step member).mono order }

theorem writeCommand (passive : port.Passive) (timing : Timing) (command : Command) :
    (Modem.writeCommand timing command port).outcome = .ok () ∧
      (Modem.writeCommand timing command port).port.clock = port.clock ∧
      (Modem.writeCommand timing command port).port.Passive := by
  obtain ⟨outcome, still, remaining⟩ := sendBytes_of_prompt (command.encode timing.terminator)
    (Nat.le_add_right port.clock timing.writeTimeout) passive.writes
  have written : (Session.write (port.clock + timing.writeTimeout)
      (command.encode timing.terminator) port).outcome = .ok () := outcome
  obtain ⟨done, rest, flushed, others⟩ := flush_of_done (port.clock + timing.writeTimeout)
    (Session.write (port.clock + timing.writeTimeout) (command.encode timing.terminator) port).port
    passive.flushes
  rw [writeCommand_apply, Session.bind_apply_of_ok written]
  simp only [flushed]
  refine ⟨done, still, fun step member => ?_, others, passive.reads⟩
  simp only [Session.write, still]
  exact passive.writes step (remaining step member)

theorem readReply (passive : port.Passive) (timing : Timing) :
    (Modem.readReply timing port).outcome = .ok none ∧
      (Modem.readReply timing port).port.clock = port.clock + timing.readTimeout ∧
      (Modem.readReply timing port).port.Passive := by
  obtain ⟨outcome, clock, silent⟩ :=
    receiveBytes_of_silent (port.clock + timing.readTimeout) port.clock passive.reads
  have read : (Session.read (port.clock + timing.readTimeout) port).outcome = .ok none := outcome
  rw [port_readReply, readReply_apply, Session.bind_apply_of_ok read]
  refine ⟨rfl, clock, fun step member => ?_, passive.flushes, silent⟩
  simp only [Session.read, clock]
  exact (passive.writes step member).mono (Nat.le_add_right _ _)

theorem sendCommand (passive : port.Passive) (timing : Timing) (command : Command) :
    (Modem.sendCommand timing command port).outcome = .ok none ∧
      (Modem.sendCommand timing command port).port.clock = port.clock + timing.readTimeout ∧
      (Modem.sendCommand timing command port).port.Passive := by
  obtain ⟨written, still, unchanged⟩ := passive.writeCommand timing command
  obtain ⟨read, ended, left⟩ := unchanged.readReply timing
  have quietly := congrArg Exchange.outcome (congrFun (quiet_sendCommand timing command) port)
  have sent : (Session.quiet (Modem.writeCommand timing command) port).outcome = .ok () := written
  rw [Session.outcome_quiet, Session.mapError, Session.bind_apply_of_ok sent] at quietly
  simp only [Session.port_quiet, Session.outcome_quiet, read] at quietly
  rw [port_sendCommand, written]
  exact ⟨quietly, ended.trans (by rw [still]), left⟩

end Port.Passive

theorem clock_perform_of_passive (timing : Timing) (actions : List Action) {port : Port}
    (passive : port.Passive) :
    (perform timing actions port).outcome = .ok () ∧
      (perform timing actions port).port.clock = port.clock +
        (waiting actions + (commandsOf actions).length * timing.readTimeout) := by
  induction actions generalizing port with
  | nil => exact ⟨rfl, by simp [perform, Session.pure_apply, waiting, commandsOf]⟩
  | cons action rest ih =>
      cases action with
      | wait duration =>
          have first : ((Action.wait duration).perform timing port).outcome = .ok () := rfl
          have woken : ((Action.wait duration).perform timing port).port =
              { port with clock := port.clock + lasting duration } := rfl
          have left := passive.wait (Nat.le_add_right port.clock (lasting duration))
          obtain ⟨outcome, clock⟩ := ih left
          rw [perform_cons_of_ok rest first, woken]
          refine ⟨outcome, clock.trans ?_⟩
          simp only [waiting, commandsOf_wait]
          omega
      | send command =>
          obtain ⟨answered, taken, left⟩ := passive.sendCommand timing command
          have sent := Action.perform_send timing command port
          have first : ((Action.send command).perform timing port).outcome = .ok () := by
            rw [sent]
            exact congrArg (·.map fun _ => ()) answered
          have same := congrArg (·.port) sent
          simp only at same
          obtain ⟨outcome, clock⟩ := ih left
          rw [perform_cons_of_ok rest first, same]
          refine ⟨outcome, clock.trans ?_⟩
          simp only [taken, waiting, commandsOf_send, List.length_cons, Nat.add_mul]
          omega

end MeterUplink.Modem
