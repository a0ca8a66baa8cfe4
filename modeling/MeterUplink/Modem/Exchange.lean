import MeterUplink.Journal
import MeterUplink.Modem.Port

namespace MeterUplink.Modem

/-! Computations that use a port. Each takes the port as it is and leaves it as it becomes, also
when it fails; the bytes that crossed the port and the records of the journal come out beside
the outcome. -/

structure Exchange (ε α : Type) where
  outcome : Except ε α
  port : Port
  events : List PortEvent
  records : List Record

/-- A computation on a port. -/
def Session (ε α : Type) := Port → Exchange ε α

namespace Session

variable {ε ε' α β : Type}

def succeed (a : α) : Session ε α := fun port => ⟨.ok a, port, [], []⟩

/-- The second computation starts on the port that the first one leaves, if that succeeded. -/
def andThen (first : Session ε α) (next : α → Session ε β) : Session ε β := fun port =>
  let done := first port
  match done.outcome with
  | .error e => ⟨.error e, done.port, done.events, done.records⟩
  | .ok a =>
    let later := next a done.port
    ⟨later.outcome, later.port, done.events ++ later.events, done.records ++ later.records⟩

instance : Monad (Session ε) where
  pure := succeed
  bind := andThen

theorem pure_apply (a : α) (port : Port) :
    (pure a : Session ε α) port = ⟨.ok a, port, [], []⟩ := rfl

theorem bind_apply_of_ok {first : Session ε α} {next : α → Session ε β} {port : Port} {a : α}
    (succeeded : (first port).outcome = .ok a) :
    (first >>= next) port =
      let later := next a (first port).port
      ⟨later.outcome, later.port, (first port).events ++ later.events,
        (first port).records ++ later.records⟩ := by
  change andThen first next port = _
  simp only [andThen, succeeded]

/-- A failure leaves the port as it is and starts nothing else. -/
theorem bind_apply_of_error {first : Session ε α} {next : α → Session ε β} {port : Port} {e : ε}
    (failed : (first port).outcome = .error e) :
    (first >>= next) port =
      ⟨.error e, (first port).port, (first port).events, (first port).records⟩ := by
  change andThen first next port = _
  simp only [andThen, failed]

/-- Names the cause of a failure anew and keeps all else. -/
def mapError (rename : ε → ε') (session : Session ε α) : Session ε' α := fun port =>
  let done := session port
  ⟨done.outcome.mapError rename, done.port, done.events, done.records⟩

def emit (level : Level) (text : String) : Session ε Unit := fun port =>
  ⟨.ok (), port, [], [⟨level, .session, text⟩]⟩

def sleep (duration : Nat) : Session ε Unit := fun port =>
  ⟨.ok (), { port with clock := endOfWait port.clock duration }, [], []⟩

/-- The time on the port's clock. -/
def time : Session ε Nat := fun port => ⟨.ok port.clock, port, [], []⟩

/-- Writes all of the bytes before the deadline. -/
def write (deadline : Nat) (bytes : List UInt8) : Session PortFault Unit := fun port =>
  let sent := sendBytes deadline port.clock bytes port.writes
  ⟨sent.outcome, { port with clock := sent.clock, writes := sent.remaining }, sent.events, []⟩

def flush (deadline : Nat) : Session PortFault Unit := fun port =>
  match port.flushes with
  | [] => ⟨.ok (), port, [], []⟩
  | .done :: rest => ⟨.ok (), { port with flushes := rest }, [], []⟩
  | .block :: _ => ⟨.error .timedOut, { port with clock := deadline }, [], []⟩
  | .fails text :: rest => ⟨.error (.reported text), { port with flushes := rest }, [], []⟩

/-- One read before the deadline; nothing may come of it. -/
def read (deadline : Nat) : Session PortFault (Option (List UInt8)) := fun port =>
  let received := receiveBytes deadline port.clock port.reads
  let events : List PortEvent :=
    match received.outcome with
    | .ok (some bytes) => [⟨received.clock, .received, bytes⟩]
    | _ => []
  ⟨received.outcome, { port with clock := received.clock, reads := received.remaining },
    events, []⟩

end Session

end MeterUplink.Modem
