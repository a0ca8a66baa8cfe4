import MeterUplink.Proofs.Modem.Command
import MeterUplink.Proofs.Modem.Plan

namespace MeterUplink.Modem

/-! The clock of a port never goes back: whatever a session does happens between the time at which
it starts and the time at which it ends, and each wait adds to the clock. -/

/-- How long a wait of the given duration lasts. -/
def lasting (duration : Nat) : Nat := min duration longestWait

/-- The times of some events lie between two others. -/
def Within (first last : Nat) (events : List PortEvent) : Prop :=
  ∀ event ∈ events, first ≤ event.time ∧ event.time ≤ last

theorem Within.nil {first last : Nat} : Within first last [] := by
  simp [Within]

theorem Within.cons {first last : Nat} {event : PortEvent} {rest : List PortEvent}
    (low : first ≤ event.time) (high : event.time ≤ last) (others : Within first last rest) :
    Within first last (event :: rest) :=
  List.forall_mem_cons.mpr ⟨⟨low, high⟩, others⟩

theorem Within.append {first last : Nat} {earlier later : List PortEvent}
    (before : Within first last earlier) (after : Within first last later) :
    Within first last (earlier ++ later) :=
  List.forall_mem_append.mpr ⟨before, after⟩

theorem Within.mono {first first' last last' : Nat} {events : List PortEvent}
    (within : Within first last events) (low : first' ≤ first) (high : last ≤ last') :
    Within first' last' events := by
  intro event member
  have bounds := within event member
  omega

/-- What was done from some time on, and when. -/
structure Timely {ε α : Type} (start : Nat) (done : Exchange ε α) : Prop where
  ordered : start ≤ done.port.clock
  within : Within start done.port.clock done.events

/-- A write goes on from the clock and stops at the deadline at the latest. -/
theorem sendBytes_within {deadline clock : Nat} (pending : List UInt8) (steps : List WriteStep)
    (inTime : clock ≤ deadline) :
    clock ≤ (sendBytes deadline clock pending steps).clock ∧
      (sendBytes deadline clock pending steps).clock ≤ deadline ∧
      Within clock (sendBytes deadline clock pending steps).clock
        (sendBytes deadline clock pending steps).events := by
  induction steps generalizing clock pending with
  | nil => exact ⟨Nat.le_refl _, inTime, .cons (Nat.le_refl _) (Nat.le_refl _) .nil⟩
  | cons step rest ih =>
      cases step with
      | acceptAll => exact ⟨Nat.le_refl _, inTime, .cons (Nat.le_refl _) (Nat.le_refl _) .nil⟩
      | acceptAtMost count =>
          rw [sendBytes]
          split
          · exact ⟨Nat.le_refl _, inTime, .cons (Nat.le_refl _) (Nat.le_refl _) .nil⟩
          · split
            · exact ⟨Nat.le_refl _, inTime, .cons (Nat.le_refl _) (Nat.le_refl _) .nil⟩
            · obtain ⟨low, high, within⟩ := ih (pending.drop count) inTime
              exact ⟨low, high, .cons (Nat.le_refl _) low within⟩
      | after delay =>
          rw [sendBytes]
          split
          case isTrue ready =>
            obtain ⟨low, high, within⟩ := ih pending ready
            have later : clock ≤ endOfWait clock delay := Nat.le_add_right _ _
            exact ⟨Nat.le_trans later low, high, within.mono later (Nat.le_refl _)⟩
          case isFalse => exact ⟨inTime, Nat.le_refl _, .nil⟩
      | readyAt time =>
          rw [sendBytes]
          split
          case isTrue ready =>
            obtain ⟨low, high, within⟩ := ih pending ready
            have later : clock ≤ max clock time := Nat.le_max_left _ _
            exact ⟨Nat.le_trans later low, high, within.mono later (Nat.le_refl _)⟩
          case isFalse => exact ⟨inTime, Nat.le_refl _, .nil⟩
      | block => exact ⟨inTime, Nat.le_refl _, .nil⟩
      | interrupted => exact ih pending inTime
      | fails text => exact ⟨Nat.le_refl _, inTime, .nil⟩

theorem clock_receiveBytes {deadline clock : Nat} (steps : List ReadStep)
    (inTime : clock ≤ deadline) :
    clock ≤ (receiveBytes deadline clock steps).clock ∧
      (receiveBytes deadline clock steps).clock ≤ deadline := by
  induction steps generalizing clock with
  | nil => exact ⟨inTime, Nat.le_refl _⟩
  | cons step rest ih =>
      cases step with
      | bytes data =>
          rw [receiveBytes]
          split
          · exact ih inTime
          · exact ⟨Nat.le_refl _, inTime⟩
      | after delay =>
          rw [receiveBytes]
          split
          case isTrue ready =>
            obtain ⟨low, high⟩ := ih ready
            exact ⟨Nat.le_trans (Nat.le_add_right _ _) low, high⟩
          case isFalse => exact ⟨inTime, Nat.le_refl _⟩
      | readyAt time =>
          rw [receiveBytes]
          split
          case isTrue ready =>
            obtain ⟨low, high⟩ := ih ready
            exact ⟨Nat.le_trans (Nat.le_max_left _ _) low, high⟩
          case isFalse => exact ⟨inTime, Nat.le_refl _⟩
      | endOfFile => exact ⟨Nat.le_refl _, inTime⟩
      | fails text => exact ⟨Nat.le_refl _, inTime⟩

namespace Session

variable {ε ε' α β : Type}

theorem timely_bind {first : Session ε α} {next : α → Session ε β} {port : Port}
    (here : Timely port.clock (first port))
    (there : ∀ a, (first port).outcome = .ok a →
      Timely (first port).port.clock (next a (first port).port)) :
    Timely port.clock ((first >>= next) port) := by
  cases outcome : (first port).outcome with
  | error e =>
      rw [bind_apply_of_error outcome]
      exact ⟨here.ordered, here.within⟩
  | ok a =>
      have later := there a outcome
      rw [bind_apply_of_ok outcome]
      exact ⟨Nat.le_trans here.ordered later.ordered,
        (here.within.mono (Nat.le_refl _) later.ordered).append
          (later.within.mono here.ordered (Nat.le_refl _))⟩

theorem timely_pure (a : α) (port : Port) : Timely port.clock ((pure a : Session ε α) port) :=
  ⟨Nat.le_refl _, .nil⟩

theorem timely_emit (level : Level) (text : String) (port : Port) :
    Timely port.clock ((emit level text : Session ε Unit) port) :=
  ⟨Nat.le_refl _, .nil⟩

theorem timely_sleep (duration : Nat) (port : Port) :
    Timely port.clock ((sleep duration : Session ε Unit) port) :=
  ⟨Nat.le_add_right _ _, .nil⟩

theorem timely_mapError {session : Session ε α} {port : Port} (rename : ε → ε')
    (timely : Timely port.clock (session port)) :
    Timely port.clock (mapError rename session port) :=
  ⟨timely.ordered, timely.within⟩

theorem timely_flush {deadline : Nat} {port : Port} (inTime : port.clock ≤ deadline) :
    Timely port.clock (flush deadline port) := by
  rw [flush]
  split
  · exact ⟨Nat.le_refl _, .nil⟩
  · exact ⟨Nat.le_refl _, .nil⟩
  · exact ⟨inTime, .nil⟩
  · exact ⟨Nat.le_refl _, .nil⟩

theorem timely_read {deadline : Nat} {port : Port} (inTime : port.clock ≤ deadline) :
    Timely port.clock (read deadline port) := by
  obtain ⟨low, _⟩ := clock_receiveBytes port.reads inTime
  refine ⟨low, ?_⟩
  simp only [read]
  split
  · exact .cons low (Nat.le_refl _) .nil
  · exact .nil

end Session

theorem timely_writeCommand (timing : Timing) (command : Command) (port : Port) :
    Timely port.clock (writeCommand timing command port) := by
  obtain ⟨low, high, within⟩ := sendBytes_within (command.encode timing.terminator) port.writes
    (Nat.le_add_right port.clock timing.writeTimeout)
  rw [writeCommand_apply]
  exact Session.timely_bind ⟨low, within⟩ fun _ _ => Session.timely_flush high

theorem timely_readReply (timing : Timing) (port : Port) :
    Timely port.clock (readReply timing port) := by
  rw [readReply_apply]
  exact Session.timely_bind (Session.timely_read (Nat.le_add_right _ _))
    fun _ _ => Session.timely_pure _ _

theorem timely_noteReply (command : Command) (reply : String) (port : Port) :
    Timely port.clock (noteReply command reply port) := by
  rw [noteReply]
  split
  · exact Session.timely_emit _ _ _
  · exact Session.timely_emit _ _ _

theorem timely_sendCommand (timing : Timing) (command : Command) (port : Port) :
    Timely port.clock (sendCommand timing command port) := by
  refine Session.timely_mapError _ (Session.timely_bind (Session.timely_emit _ _ _) fun _ _ => ?_)
  refine Session.timely_bind (timely_writeCommand timing command _) fun _ _ => ?_
  refine Session.timely_bind (timely_readReply timing _) fun reply _ => ?_
  cases reply with
  | none => exact Session.timely_pure _ _
  | some text =>
      exact Session.timely_bind (timely_noteReply command text _) fun _ _ => Session.timely_pure _ _

theorem Action.timely_perform (timing : Timing) (action : Action) (port : Port) :
    Timely port.clock (action.perform timing port) := by
  cases action with
  | wait duration => exact Session.timely_sleep duration port
  | send command =>
      exact Session.timely_bind (timely_sendCommand timing command port)
        fun _ _ => Session.timely_pure _ _

theorem timely_perform (timing : Timing) (actions : List Action) (port : Port) :
    Timely port.clock (perform timing actions port) := by
  induction actions generalizing port with
  | nil => exact Session.timely_pure _ _
  | cons action rest ih =>
      exact Session.timely_bind (action.timely_perform timing port) fun _ _ => ih _

/-- The time for which the waits among some actions last. -/
def waiting : List Action → Nat
  | [] => 0
  | .wait duration :: rest => lasting duration + waiting rest
  | .send _ :: rest => waiting rest

@[simp] theorem waiting_append (before after : List Action) :
    waiting (before ++ after) = waiting before + waiting after := by
  induction before with
  | nil => simp [waiting]
  | cons action rest ih => cases action <;> simp [waiting, ih, Nat.add_assoc]

/-- Actions that succeed take at least as long as their waits. -/
theorem clock_add_waiting_le {timing : Timing} {actions : List Action} {port : Port}
    (succeeded : (perform timing actions port).outcome = .ok ()) :
    port.clock + waiting actions ≤ (perform timing actions port).port.clock := by
  induction actions generalizing port with
  | nil => exact Nat.le_refl _
  | cons action rest ih =>
      cases first : (action.perform timing port).outcome with
      | error e =>
          rw [perform, Session.bind_apply_of_error first] at succeeded
          cases succeeded
      | ok _ =>
          rw [perform, Session.bind_apply_of_ok first] at succeeded ⊢
          have later := ih succeeded
          have ordered := (action.timely_perform timing port).ordered
          cases action with
          | wait duration =>
              have woken : ((Action.wait duration).perform timing port).port.clock =
                  port.clock + lasting duration := rfl
              simp only [waiting]
              omega
          | send command =>
              simp only [waiting]
              omega

end MeterUplink.Modem
