import MeterUplink.Modem.Transmission
import MeterUplink.Proofs.Modem.Session

namespace MeterUplink.Modem

/-! What a transmission does to the port, as a list of actions fixed before it starts: waits and
commands. Replies decide nothing but what the journal says, so a transmission leaves the same
port and the same events as its plan. -/

inductive Action where
  | wait (duration : Nat)
  | send (command : Command)
deriving Repr, DecidableEq

def Action.perform (timing : Timing) : Action → Session TransmissionError Unit
  | .wait duration => Session.sleep duration
  | .send command => do
    let _ ← sendCommand timing command

/-- Performs actions one after another, up to the first that fails. -/
def perform (timing : Timing) : List Action → Session TransmissionError Unit
  | [] => pure ()
  | action :: rest => do
    action.perform timing
    perform timing rest

def commandsOf (actions : List Action) : List Command :=
  actions.filterMap fun action =>
    match action with
    | .wait _ => none
    | .send command => some command

def frameCommands (chunk : String) : List Command := [.getInfo, .resetChannel, .sendFrame chunk]

/-- The actions for one chunk, when `sent` of `total` frames are behind. -/
def frameActions (timing : Timing) (total sent : Nat) (chunk : String) : List Action :=
  (if pauseDue timing sent then [.wait timing.pauseDelay] else []) ++
    ([.send .getInfo, .wait timing.commandDelay, .send .resetChannel,
      .wait timing.commandDelay, .send (.sendFrame chunk)] ++
    (if sent + 1 < total then [.wait timing.frameDelay] else []))

def planFrom (timing : Timing) (total sent : Nat) : List String → List Action
  | [] => []
  | chunk :: rest =>
    frameActions timing total sent chunk ++ planFrom timing total (sent + 1) rest

def plan (timing : Timing) (chunks : Chunks) : List Action :=
  planFrom timing chunks.count 0 chunks.texts

@[simp] theorem commandsOf_append (before after : List Action) :
    commandsOf (before ++ after) = commandsOf before ++ commandsOf after :=
  List.filterMap_append

@[simp] theorem commandsOf_wait (duration : Nat) (rest : List Action) :
    commandsOf (.wait duration :: rest) = commandsOf rest := rfl

@[simp] theorem commandsOf_send (command : Command) (rest : List Action) :
    commandsOf (.send command :: rest) = command :: commandsOf rest := rfl

theorem commandsOf_frameActions (timing : Timing) (total sent : Nat) (chunk : String) :
    commandsOf (frameActions timing total sent chunk) = frameCommands chunk := by
  rw [frameActions, commandsOf_append]
  split <;> split <;> rfl

theorem commandsOf_planFrom (timing : Timing) (total sent : Nat) (texts : List String) :
    commandsOf (planFrom timing total sent texts) = texts.flatMap frameCommands := by
  induction texts generalizing sent with
  | nil => rfl
  | cons chunk rest ih =>
      rw [planFrom, commandsOf_append, commandsOf_frameActions, ih, List.flatMap_cons]

theorem commandsOf_plan (timing : Timing) (chunks : Chunks) :
    commandsOf (plan timing chunks) = chunks.texts.flatMap frameCommands :=
  commandsOf_planFrom timing chunks.count 0 chunks.texts

theorem perform_append (timing : Timing) (before after : List Action) :
    perform timing (before ++ after) =
      perform timing before >>= fun _ => perform timing after := by
  induction before with
  | nil => rfl
  | cons action rest ih =>
      rw [List.cons_append, perform, perform, ih, bind_assoc]

theorem perform_cons_of_ok {timing : Timing} {action : Action} {port : Port} (rest : List Action)
    (succeeded : (action.perform timing port).outcome = .ok ()) :
    perform timing (action :: rest) port =
      let later := perform timing rest (action.perform timing port).port
      ⟨later.outcome, later.port, (action.perform timing port).events ++ later.events,
        (action.perform timing port).records ++ later.records⟩ :=
  Session.bind_apply_of_ok succeeded

theorem Action.perform_send (timing : Timing) (command : Command) (port : Port) :
    (Action.send command).perform timing port =
      { sendCommand timing command port with
        outcome := (sendCommand timing command port).outcome.map fun _ => () } :=
  Session.bind_pure_apply _ _ _

section

variable {keep : Record → Bool} (uninformed : ∀ text, keep ⟨.info, .session, text⟩ = false)

include uninformed

theorem keeping_pause (timing : Timing) (sent : Nat) :
    Session.keeping keep (pause timing sent) =
      Session.keeping keep (perform timing
        (if pauseDue timing sent then [.wait timing.pauseDelay] else [])) := by
  rw [pause]
  split
  · rw [Session.keeping_bind, Session.keeping_emit (uninformed _), pure_bind, perform, perform,
      Session.keeping_bind]
    exact (bind_pure _).symm
  · rfl

omit uninformed in
theorem keeping_sendFrame (timing : Timing) (chunk : String) :
    (do let _ ← Session.keeping keep (sendFrame timing chunk)) =
      Session.keeping keep (perform timing
        [.send .getInfo, .wait timing.commandDelay, .send .resetChannel,
          .wait timing.commandDelay, .send (.sendFrame chunk)]) := by
  simp only [sendFrame, perform, Action.perform, Session.keeping_bind, bind_assoc, pure_bind,
    Session.keeping_pure]

theorem keeping_transmitFrom (timing : Timing) (total sent : Nat) (texts : List String) :
    Session.keeping keep (transmitFrom timing total sent texts) =
      (do Session.keeping keep (perform timing (planFrom timing total sent texts))
          pure (sent + texts.length)) := by
  induction texts generalizing sent with
  | nil => rfl
  | cons chunk rest ih =>
      have counted : sent + 1 + rest.length = sent + (chunk :: rest).length := by
        rw [List.length_cons]
        omega
      rw [transmitFrom, planFrom, frameActions, perform_append, perform_append, perform_append]
      simp only [Session.keeping_bind, noteFrame, Session.keeping_emit (uninformed _), pure_bind,
        keeping_pause uninformed, ← keeping_sendFrame, bind_assoc]
      by_cases more : sent + 1 < total
      · simp only [more, if_true, perform, Action.perform, Session.keeping_bind, ih, counted,
          bind_assoc, Session.keeping_pure, pure_bind]
      · simp only [more, if_false, perform, ih, counted, Session.keeping_pure, pure_bind]

/-- A transmission and its plan do the same to the port, and their journals differ at most in
records of level info. -/
theorem keeping_transmit (timing : Timing) (chunks : Chunks) :
    Session.keeping keep (transmit timing chunks) =
      (do Session.keeping keep (perform timing (plan timing chunks))
          pure chunks.count) := by
  rw [transmit, keeping_transmitFrom uninformed, Nat.zero_add]
  rfl

end

/-- The journal apart, a transmission does what its plan does. -/
theorem quiet_transmit (timing : Timing) (chunks : Chunks) :
    Session.quiet (transmit timing chunks) =
      (do Session.quiet (perform timing (plan timing chunks))
          pure chunks.count) := by
  simp only [Session.quiet_eq_keeping]
  exact keeping_transmit (fun _ => rfl) timing chunks

theorem events_transmit (timing : Timing) (chunks : Chunks) (port : Port) :
    (transmit timing chunks port).events = (perform timing (plan timing chunks) port).events := by
  have quietly := congrArg Exchange.events (congrFun (quiet_transmit timing chunks) port)
  rw [Session.bind_pure_apply] at quietly
  exact quietly

theorem port_transmit (timing : Timing) (chunks : Chunks) (port : Port) :
    (transmit timing chunks port).port = (perform timing (plan timing chunks) port).port := by
  have quietly := congrArg Exchange.port (congrFun (quiet_transmit timing chunks) port)
  rw [Session.bind_pure_apply] at quietly
  exact quietly

theorem outcome_transmit (timing : Timing) (chunks : Chunks) (port : Port) :
    (transmit timing chunks port).outcome =
      (perform timing (plan timing chunks) port).outcome.map fun _ => chunks.count := by
  have quietly := congrArg Exchange.outcome (congrFun (quiet_transmit timing chunks) port)
  rw [Session.bind_pure_apply] at quietly
  exact quietly

theorem records_transmit {keep : Record → Bool}
    (uninformed : ∀ text, keep ⟨.info, .session, text⟩ = false) (timing : Timing) (chunks : Chunks)
    (port : Port) :
    (transmit timing chunks port).records.filter keep =
      (perform timing (plan timing chunks) port).records.filter keep := by
  have kept := congrArg Exchange.records (congrFun (keeping_transmit uninformed timing chunks) port)
  rw [Session.bind_pure_apply] at kept
  exact kept

end MeterUplink.Modem
