import MeterUplink.Modem.Command
import MeterUplink.Modem.Exchange
import MeterUplink.Modem.Timing
import MeterUplink.Numeral.Milliseconds
import MeterUplink.Payload.Chunks
import MeterUplink.Text.Blank
import MeterUplink.Text.Quoted

namespace MeterUplink.Modem

/-! Transmissions: the chunks of a payload sent as frames, each after the two commands that
prepare the modem for it, at a pace that keeps to the duty cycle. -/

/-- A command that could not be sent, or whose reply could not be read. -/
structure TransmissionError where
  command : Command
  fault : PortFault
deriving Repr, DecidableEq

def TransmissionError.message (error : TransmissionError) : String :=
  s!"Sending {error.command.text} failed: {error.fault.message}"

/-- Writes and flushes within one timeout. -/
def writeCommand (timing : Timing) (command : Command) : Session PortFault Unit := do
  let start ← Session.time
  let deadline := start + timing.writeTimeout
  Session.write deadline (command.encode timing.terminator)
  Session.flush deadline

/-- Whatever the modem answers within the timeout, if anything. -/
def readReply (timing : Timing) : Session PortFault (Option String) := do
  let start ← Session.time
  let bytes ← Session.read (start + timing.readTimeout)
  pure (bytes.map fun bytes => String.ofList (Text.decodeUtf8 bytes))

/-- The record of a reply. An error does not end the session. -/
def noteReply (command : Command) (reply : String) : Session PortFault Unit :=
  if isErrorReply reply then
    Session.emit .warn s!"Modem rejected {command.text}: {Text.trimmed reply}"
  else Session.emit .debug s!"<- {Text.trimmed reply}"

/-- Sends one command and gives the reply to it. -/
def sendCommand (timing : Timing) (command : Command) :
    Session TransmissionError (Option String) :=
  Session.mapError (⟨command, ·⟩) do
    Session.emit .debug s!"-> {command.text}"
    writeCommand timing command
    let reply ← readReply timing
    match reply with
    | some text => noteReply command text
    | none => pure ()
    pure reply

/-- The pause of the duty cycle, due after every `pauseEvery` frames. -/
def pauseDue (timing : Timing) (sent : Nat) : Bool :=
  decide (0 < sent) && decide (0 < timing.pauseEvery) && sent % timing.pauseEvery == 0

def pause (timing : Timing) (sent : Nat) : Session TransmissionError Unit :=
  if pauseDue timing sent then do
    Session.emit .info s!"{sent} frames sent, pausing {millisecondsText timing.pauseDelay}"
    Session.sleep timing.pauseDelay
  else pure ()

/-- The three commands of one frame, and the reply to the last of them. -/
def sendFrame (timing : Timing) (chunk : String) : Session TransmissionError (Option String) := do
  let _ ← sendCommand timing .getInfo
  Session.sleep timing.commandDelay
  let _ ← sendCommand timing .resetChannel
  Session.sleep timing.commandDelay
  sendCommand timing (.sendFrame chunk)

/-- The record of a frame that was sent. -/
def noteFrame (number total : Nat) (chunk : String) (reply : Option String) :
    Session TransmissionError Unit :=
  let answer := Text.quotedText ((reply.map Text.trimmed).getD "nothing")
  Session.emit .info s!"Frame {number}/{total} '{chunk}' sent, modem answered {answer}"

/-- Sends the chunks that are left after `sent` frames; no delay follows the last one. -/
def transmitFrom (timing : Timing) (total sent : Nat) :
    List String → Session TransmissionError Nat
  | [] => pure sent
  | chunk :: rest => do
    pause timing sent
    let reply ← sendFrame timing chunk
    noteFrame (sent + 1) total chunk reply
    if sent + 1 < total then Session.sleep timing.frameDelay else pure ()
    transmitFrom timing total (sent + 1) rest

/-- Sends every chunk as one frame, in order, and counts them. -/
def transmit (timing : Timing) (chunks : Chunks) : Session TransmissionError Nat :=
  transmitFrom timing chunks.count 0 chunks.texts

end MeterUplink.Modem
