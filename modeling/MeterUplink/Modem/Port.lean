namespace MeterUplink.Modem

/-! A port as a session sees it: a clock, and what the far end will do, step by step, when it is
read from, written to and flushed. A delay begins when an operation first meets it and goes on
while nothing is asked of the port, so a step that a read waited for in vain can be ready for the
next one. An operation has a deadline; what becomes ready exactly then still counts. -/

/-- No sleep and no delay lasts longer than thirty years of 365 days. Timeouts have no such
limit. -/
def longestWait : Nat := 30 * 365 * 24 * 60 * 60 * 1000

/-- The time at which a wait of the given duration is over. -/
def endOfWait (clock duration : Nat) : Nat := clock + min duration longestWait

/-- Why an operation on a port failed. -/
inductive PortFault where
  | reported (text : String)
  | nothingWritten
  | timedOut
deriving Repr, DecidableEq

def PortFault.message : PortFault → String
  | reported text => text
  | nothingWritten => "write zero"
  | timedOut => "write timed out"

inductive ReadStep where
  | bytes (data : List UInt8)
  /-- The next step is ready this long after the delay was first met. -/
  | after (delay : Nat)
  /-- A delay that was met: the next step is ready at this time. -/
  | readyAt (time : Nat)
  | endOfFile
  | fails (text : String)
deriving Repr, DecidableEq

inductive WriteStep where
  | acceptAll
  | acceptAtMost (count : Nat)
  | after (delay : Nat)
  | readyAt (time : Nat)
  /-- Never ready. -/
  | block
  /-- Nothing is accepted, and the write is tried again. -/
  | interrupted
  | fails (text : String)
deriving Repr, DecidableEq

inductive FlushStep where
  | done
  | block
  | fails (text : String)
deriving Repr, DecidableEq

/-- The way that bytes went. -/
inductive Direction where
  | written
  | received
deriving Repr, DecidableEq

/-- Bytes that crossed the port at some time. -/
structure PortEvent where
  time : Nat
  direction : Direction
  bytes : List UInt8
deriving Repr, DecidableEq

/-- An exhausted queue of writes accepts everything, one of flushes succeeds, and one of reads is
never ready. -/
structure Port where
  clock : Nat := 0
  reads : List ReadStep := []
  writes : List WriteStep := []
  flushes : List FlushStep := []
deriving Repr, DecidableEq

/-- What became of bytes that were to be written. -/
structure Sent where
  outcome : Except PortFault Unit
  clock : Nat
  remaining : List WriteStep
  events : List PortEvent

/-- Writes all of `pending`, piece by piece as the far end accepts it. -/
def sendBytes (deadline clock : Nat) (pending : List UInt8) : List WriteStep → Sent
  | [] => ⟨.ok (), clock, [], [⟨clock, .written, pending⟩]⟩
  | .acceptAll :: rest => ⟨.ok (), clock, rest, [⟨clock, .written, pending⟩]⟩
  | .acceptAtMost count :: rest =>
    if count = 0 then ⟨.error .nothingWritten, clock, rest, [⟨clock, .written, []⟩]⟩
    else if pending.length ≤ count then ⟨.ok (), clock, rest, [⟨clock, .written, pending⟩]⟩
    else
      let later := sendBytes deadline clock (pending.drop count) rest
      { later with events := ⟨clock, .written, pending.take count⟩ :: later.events }
  | .after delay :: rest =>
    let time := endOfWait clock delay
    if time ≤ deadline then sendBytes deadline time pending rest
    else ⟨.error .timedOut, deadline, .readyAt time :: rest, []⟩
  | .readyAt time :: rest =>
    if max clock time ≤ deadline then sendBytes deadline (max clock time) pending rest
    else ⟨.error .timedOut, deadline, .readyAt time :: rest, []⟩
  | .block :: rest => ⟨.error .timedOut, deadline, .block :: rest, []⟩
  | .interrupted :: rest => sendBytes deadline clock pending rest
  | .fails text :: rest => ⟨.error (.reported text), clock, rest, []⟩

/-- What one read brought: some bytes, or nothing before the deadline or at the end of file. -/
structure Received where
  outcome : Except PortFault (Option (List UInt8))
  clock : Nat
  remaining : List ReadStep

/-- The most that one read takes. -/
def readSize : Nat := 256

/-- One read. What does not fit stays for the next one. -/
def receiveBytes (deadline clock : Nat) : List ReadStep → Received
  | [] => ⟨.ok none, deadline, []⟩
  | .bytes data :: rest =>
    if data.isEmpty then receiveBytes deadline clock rest
    else
      let left := data.drop readSize
      let remaining := if left.isEmpty then rest else .bytes left :: rest
      ⟨.ok (some (data.take readSize)), clock, remaining⟩
  | .after delay :: rest =>
    let time := endOfWait clock delay
    if time ≤ deadline then receiveBytes deadline time rest
    else ⟨.ok none, deadline, .readyAt time :: rest⟩
  | .readyAt time :: rest =>
    if max clock time ≤ deadline then receiveBytes deadline (max clock time) rest
    else ⟨.ok none, deadline, .readyAt time :: rest⟩
  | .endOfFile :: rest => ⟨.ok none, clock, rest⟩
  | .fails text :: rest => ⟨.error (.reported text), clock, rest⟩

end MeterUplink.Modem
