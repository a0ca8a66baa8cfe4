import MeterUplink.Proofs.Journal
import MeterUplink.Proofs.Modem.Command
import MeterUplink.Proofs.Modem.Plan

namespace MeterUplink.Modem

/-! Replies decide nothing about what is sent. Two ports that take bytes alike, and differ in their
clocks and in what they have to read, get the same pieces of the same commands. -/

/-- The pieces that the far end accepted, each as it was accepted. -/
def segments (events : List PortEvent) : List (List UInt8) :=
  (events.filter fun event => event.direction = .written).map (·.bytes)

@[simp] theorem segments_append (earlier later : List PortEvent) :
    segments (earlier ++ later) = segments earlier ++ segments later := by
  simp [segments]

@[simp] theorem segments_written (time : Nat) (bytes : List UInt8) (later : List PortEvent) :
    segments (⟨time, .written, bytes⟩ :: later) = bytes :: segments later := rfl

/-- Ports that take bytes alike. No delay of a write was met before on either of them, since it
would count from then on, and neither has a read that fails. -/
structure TakeAlike (first second : Port) : Prop where
  writes : second.writes = first.writes
  flushes : second.flushes = first.flushes
  unmet : ∀ time, .readyAt time ∉ first.writes
  reads : ∀ text, .fails text ∉ first.reads
  otherReads : ∀ text, .fails text ∉ second.reads

/-- Runs that the far end cannot tell apart: they fail for the same cause, or succeed and leave
ports that take bytes alike. Their results may differ. -/
inductive Match {ε α : Type} (first second : Exchange ε α) : Prop where
  | succeeded {a b : α} (here : first.outcome = .ok a) (there : second.outcome = .ok b)
      (ports : TakeAlike first.port second.port)
      (same : segments second.events = segments first.events)
  | failed {e : ε} (here : first.outcome = .error e) (there : second.outcome = .error e)
      (same : segments second.events = segments first.events)

/-- What two writes have in common that have the same time left until their deadlines. -/
structure SentAlike (first second : Sent) : Prop where
  outcome : second.outcome = first.outcome
  same : segments second.events = segments first.events
  remaining : first.outcome = .ok () → second.remaining = first.remaining
  unmet : first.outcome = .ok () → ∀ time, .readyAt time ∉ first.remaining

theorem SentAlike.of_failed {first second : Sent} {cause : PortFault}
    (failed : first.outcome = .error cause) (outcome : second.outcome = first.outcome)
    (same : segments second.events = segments first.events) : SentAlike first second where
  outcome := outcome
  same := same
  remaining done := by cases failed.symm.trans done
  unmet done := by cases failed.symm.trans done

theorem sendBytes_alike {deadline clock deadline' clock' : Nat}
    (aligned : clock + deadline' = clock' + deadline) (pending : List UInt8)
    (steps : List WriteStep) (unmet : ∀ time, .readyAt time ∉ steps) :
    SentAlike (sendBytes deadline clock pending steps)
      (sendBytes deadline' clock' pending steps) := by
  induction steps generalizing clock clock' pending with
  | nil => exact ⟨rfl, rfl, fun _ => rfl, fun _ _ => List.not_mem_nil⟩
  | cons step rest ih =>
      have later : ∀ time, .readyAt time ∉ rest :=
        fun time member => unmet time (List.mem_cons_of_mem step member)
      cases step with
      | acceptAll => exact ⟨rfl, rfl, fun _ => rfl, fun _ => later⟩
      | acceptAtMost count =>
          simp only [sendBytes]
          split
          · exact .of_failed rfl rfl rfl
          · split
            · exact ⟨rfl, rfl, fun _ => rfl, fun _ => later⟩
            · have alike := ih aligned (pending.drop count) later
              exact ⟨alike.outcome, by simp [alike.same], alike.remaining, alike.unmet⟩
      | after delay =>
          have moved : endOfWait clock delay + deadline' = endOfWait clock' delay + deadline := by
            simp only [endOfWait]
            omega
          have ready : endOfWait clock delay ≤ deadline ↔ endOfWait clock' delay ≤ deadline' := by
            omega
          simp only [sendBytes, ready]
          split
          · exact ih moved pending later
          · exact .of_failed rfl rfl rfl
      | readyAt time => exact absurd List.mem_cons_self (unmet time)
      | block => exact .of_failed rfl rfl rfl
      | interrupted => exact ih aligned pending later
      | fails text => exact .of_failed rfl rfl rfl

theorem mem_remaining_receiveBytes {deadline clock : Nat} {text : String} {steps : List ReadStep}
    (member : .fails text ∈ (receiveBytes deadline clock steps).remaining) :
    .fails text ∈ steps := by
  induction steps generalizing clock with
  | nil => exact member
  | cons step rest ih =>
      refine List.mem_cons.mpr ?_
      cases step with
      | bytes data =>
          simp only [receiveBytes] at member
          split at member
          · exact .inr (ih member)
          · split at member
            · exact .inr member
            · exact .inr (List.mem_of_ne_of_mem (by simp) member)
      | after delay =>
          simp only [receiveBytes] at member
          split at member
          · exact .inr (ih member)
          · exact .inr (List.mem_of_ne_of_mem (by simp) member)
      | readyAt time =>
          simp only [receiveBytes] at member
          split at member
          · exact .inr (ih member)
          · exact .inr (List.mem_of_ne_of_mem (by simp) member)
      | endOfFile => exact .inr member
      | fails other => exact .inr member

theorem exists_receiveBytes (deadline clock : Nat) {steps : List ReadStep}
    (reads : ∀ text, .fails text ∉ steps) :
    ∃ bytes, (receiveBytes deadline clock steps).outcome = .ok bytes := by
  cases outcome : (receiveBytes deadline clock steps).outcome with
  | ok bytes => exact ⟨bytes, rfl⟩
  | error fault =>
      obtain ⟨text, skipped, _, _, split⟩ := receiveBytes_failed outcome
      refine absurd ?_ (reads text)
      rw [split]
      exact List.mem_append_right skipped List.mem_cons_self

namespace Session

variable {ε ε' α β : Type} {port other : Port}

theorem match_bind {first first' : Session ε α} {next next' : α → Session ε β}
    (here : Match (first port) (first' other))
    (there : ∀ a b, TakeAlike (first port).port (first' other).port →
      Match (next a (first port).port) (next' b (first' other).port)) :
    Match ((first >>= next) port) ((first' >>= next') other) := by
  cases here with
  | failed one two same =>
      rw [bind_apply_of_error one, bind_apply_of_error two]
      exact .failed rfl rfl same
  | succeeded one two ports same =>
      rw [bind_apply_of_ok one, bind_apply_of_ok two]
      cases there _ _ ports with
      | failed one' two' same' => exact .failed one' two' (by simp [same, same'])
      | succeeded one' two' ports' same' =>
          exact .succeeded one' two' ports' (by simp [same, same'])

theorem match_pure (alike : TakeAlike port other) (a b : α) :
    Match ((pure a : Session ε α) port) ((pure b : Session ε α) other) :=
  .succeeded rfl rfl alike rfl

theorem match_of_quiet {session : Session ε α}
    (quietly : Match (quiet session port) (quiet session other)) :
    Match (session port) (session other) := by
  cases quietly with
  | failed one two same => exact .failed one two same
  | succeeded one two ports same => exact .succeeded one two ports same

theorem match_quiet {session : Session ε α} (here : Match (session port) (session other)) :
    Match (quiet session port) (quiet session other) := by
  cases here with
  | failed one two same => exact .failed one two same
  | succeeded one two ports same => exact .succeeded one two ports same

theorem match_sleep (alike : TakeAlike port other) (duration : Nat) :
    Match ((sleep duration : Session ε Unit) port) ((sleep duration : Session ε Unit) other) :=
  .succeeded rfl rfl { alike with } rfl

theorem match_mapError {session : Session ε α} (rename : ε → ε')
    (here : Match (session port) (session other)) :
    Match (mapError rename session port) (mapError rename session other) := by
  cases here with
  | failed one two same =>
      exact .failed (congrArg (·.mapError rename) one) (congrArg (·.mapError rename) two) same
  | succeeded one two ports same =>
      exact .succeeded (congrArg (·.mapError rename) one) (congrArg (·.mapError rename) two) ports
        same

theorem match_write (alike : TakeAlike port other) (timeout : Nat) (bytes : List UInt8) :
    Match (write (port.clock + timeout) bytes port)
      (write (other.clock + timeout) bytes other) := by
  have aligned : port.clock + (other.clock + timeout) = other.clock + (port.clock + timeout) := by
    omega
  have sent := sendBytes_alike aligned bytes port.writes alike.unmet
  simp only [write, alike.writes]
  cases outcome : (sendBytes (port.clock + timeout) port.clock bytes port.writes).outcome with
  | error fault => exact .failed rfl (sent.outcome.trans outcome) sent.same
  | ok done =>
      refine .succeeded rfl (sent.outcome.trans outcome) ?_ sent.same
      exact { alike with writes := sent.remaining outcome, unmet := sent.unmet outcome }

theorem match_flush (alike : TakeAlike port other) (deadline deadline' : Nat) :
    Match (flush deadline port) (flush deadline' other) := by
  simp only [flush, alike.flushes]
  split
  case h_1 => exact .succeeded rfl rfl alike rfl
  case h_2 => exact .succeeded rfl rfl { alike with flushes := rfl } rfl
  case h_3 => exact .failed rfl rfl rfl
  case h_4 => exact .failed rfl rfl rfl

theorem segments_read (deadline : Nat) (port : Port) :
    segments (read deadline port).events = [] := by
  simp only [read]
  split <;> rfl

theorem match_read (alike : TakeAlike port other) (deadline deadline' : Nat) :
    Match (read deadline port) (read deadline' other) := by
  obtain ⟨bytes, here⟩ := exists_receiveBytes deadline port.clock alike.reads
  obtain ⟨bytes', there⟩ := exists_receiveBytes deadline' other.clock alike.otherReads
  refine .succeeded here there ?_ (by rw [segments_read, segments_read])
  exact { alike with
    reads := fun text member => alike.reads text (mem_remaining_receiveBytes member)
    otherReads := fun text member => alike.otherReads text (mem_remaining_receiveBytes member) }

end Session

variable {port other : Port}

theorem match_writeCommand (alike : TakeAlike port other) (timing : Timing) (command : Command) :
    Match (writeCommand timing command port) (writeCommand timing command other) := by
  rw [writeCommand_apply, writeCommand_apply]
  exact Session.match_bind (Session.match_write alike timing.writeTimeout _)
    fun _ _ ports => Session.match_flush ports _ _

theorem match_readReply (alike : TakeAlike port other) (timing : Timing) :
    Match (readReply timing port) (readReply timing other) := by
  rw [readReply_apply, readReply_apply]
  exact Session.match_bind (Session.match_read alike _ _)
    fun _ _ ports => Session.match_pure ports _ _

theorem match_sendCommand (alike : TakeAlike port other) (timing : Timing) (command : Command) :
    Match (sendCommand timing command port) (sendCommand timing command other) := by
  apply Session.match_of_quiet
  rw [quiet_sendCommand]
  refine Session.match_mapError _ (Session.match_bind ?_ fun _ _ ports => ?_)
  · exact Session.match_quiet (match_writeCommand alike timing command)
  · exact Session.match_quiet (match_readReply ports timing)

theorem Action.match_perform (alike : TakeAlike port other) (timing : Timing) (action : Action) :
    Match (action.perform timing port) (action.perform timing other) := by
  cases action with
  | wait duration => exact Session.match_sleep alike duration
  | send command =>
      exact Session.match_bind (match_sendCommand alike timing command)
        fun _ _ ports => Session.match_pure ports _ _

theorem match_perform (alike : TakeAlike port other) (timing : Timing) (actions : List Action) :
    Match (perform timing actions port) (perform timing actions other) := by
  induction actions generalizing port other with
  | nil => exact Session.match_pure alike _ _
  | cons action rest ih =>
      exact Session.match_bind (action.match_perform alike timing) fun _ _ ports => ih ports

/-- Whatever the replies are, as long as every read succeeds or is silent, a transmission has the
same result and the far end accepts the same pieces. -/
theorem transmit_of_replies (timing : Timing) (chunks : Chunks) (port other : Port)
    (writes : other.writes = port.writes) (flushes : other.flushes = port.flushes)
    (fresh : ∀ time, .readyAt time ∉ port.writes)
    (reads : ∀ text, .fails text ∉ port.reads)
    (otherReads : ∀ text, .fails text ∉ other.reads) :
    (transmit timing chunks other).outcome = (transmit timing chunks port).outcome ∧
      segments (transmit timing chunks other).events =
        segments (transmit timing chunks port).events := by
  have planned := match_perform ⟨writes, flushes, fresh, reads, otherReads⟩ timing
    (plan timing chunks)
  rw [outcome_transmit, outcome_transmit, events_transmit, events_transmit]
  cases planned with
  | failed here there same => exact ⟨by rw [here, there], same⟩
  | succeeded here there ports same => exact ⟨by rw [here, there], same⟩

/-- A modem that answers piecemeal, with bytes that are no text, is found out at the same command
as a silent one. -/
theorem transmit_of_broken_replies :
    let timing : Timing := ⟨"\r", 1000, 10000, 2, 20000, 1000, 2000⟩
    let silent : Port :=
      { writes := [.acceptAtMost 3, .after 1500, .interrupted, .acceptAll, .block] }
    let answering : Port :=
      { silent with reads := [.bytes [0x45, 0xFF], .after 900, .endOfFile, .bytes [0xE2]] }
    (transmit timing ⟨["ff"]⟩ answering).outcome = .error ⟨.resetChannel, .timedOut⟩ ∧
      segments (transmit timing ⟨["ff"]⟩ answering).events =
        segments (transmit timing ⟨["ff"]⟩ silent).events := by
  intro timing silent answering
  have same := transmit_of_replies timing ⟨["ff"]⟩ silent answering rfl rfl (by simp [silent])
    (by simp [silent]) (by simp [answering])
  have blocked : (transmit timing ⟨["ff"]⟩ silent).outcome = .error ⟨.resetChannel, .timedOut⟩ := by
    decide +kernel
  exact ⟨same.1.trans blocked, same.2⟩

end MeterUplink.Modem
