import MeterUplink.Proofs.Journal
import MeterUplink.Proofs.Modem.Command
import MeterUplink.Proofs.Modem.ErrorReply
import MeterUplink.Proofs.Modem.Plan

namespace MeterUplink.Modem

/-! Which rejections a session tells of. The reply to a command is what one read brings: the first
piece that arrives before the timeout is over, as far as it fits. A rejection that arrives in
another piece, or behind the first bytes of a long one, is not told of. -/

/-- The pieces that arrive until the deadline if one goes on to read. An end of file is an empty
piece. -/
def arrivals (deadline clock : Nat) : List ReadStep → List (List UInt8)
  | [] => []
  | .bytes data :: rest =>
    if data.isEmpty then arrivals deadline clock rest else data :: arrivals deadline clock rest
  | .after delay :: rest =>
    let time := endOfWait clock delay
    if time ≤ deadline then arrivals deadline time rest else []
  | .readyAt time :: rest =>
    if max clock time ≤ deadline then arrivals deadline (max clock time) rest else []
  | .endOfFile :: rest => [] :: arrivals deadline clock rest
  | .fails _ :: _ => []

/-- The bytes of them that one read brings. -/
def firstPiece (arrived : List (List UInt8)) : List UInt8 := (arrived.headD []).take readSize

theorem firstPiece_of_short {arrived : List (List UInt8)} (single : arrived.length ≤ 1)
    (short : arrived.flatten.length ≤ readSize) : firstPiece arrived = arrived.flatten := by
  match arrived, single with
  | [], _ => rfl
  | [piece], _ =>
      rw [List.flatten_singleton] at short ⊢
      exact List.take_of_length_le short

theorem receiveBytes_of_ok {deadline clock : Nat} {steps : List ReadStep}
    {bytes : Option (List UInt8)}
    (received : (receiveBytes deadline clock steps).outcome = .ok bytes) :
    bytes.getD [] = firstPiece (arrivals deadline clock steps) := by
  induction steps generalizing clock with
  | nil =>
      cases received
      rfl
  | cons step rest ih =>
      cases step with
      | bytes data =>
          rw [receiveBytes] at received
          rw [arrivals]
          split at received
          case isTrue empty =>
            rw [if_pos empty]
            exact ih received
          case isFalse some =>
            rw [if_neg some]
            cases received
            rfl
      | after delay =>
          simp only [receiveBytes] at received
          simp only [arrivals]
          split at received
          case isTrue ready =>
            rw [if_pos ready]
            exact ih received
          case isFalse notReady =>
            rw [if_neg notReady]
            cases received
            rfl
      | readyAt time =>
          rw [receiveBytes] at received
          rw [arrivals]
          split at received
          case isTrue ready =>
            rw [if_pos ready]
            exact ih received
          case isFalse notReady =>
            rw [if_neg notReady]
            cases received
            rfl
      | endOfFile =>
          cases received
          rfl
      | fails text => cases received

theorem Session.records_flush (deadline : Nat) (port : Port) :
    (Session.flush deadline port).records = [] := by
  rw [Session.flush]
  split <;> rfl

theorem records_writeCommand (timing : Timing) (command : Command) (port : Port) :
    (writeCommand timing command port).records = [] :=
  Session.records_bind_eq_nil rfl fun _ =>
    Session.records_bind_eq_nil rfl fun _ => Session.records_flush _ _

theorem records_readReply (timing : Timing) (port : Port) :
    (readReply timing port).records = [] :=
  Session.records_bind_eq_nil rfl fun _ => Session.records_bind_eq_nil rfl fun _ => rfl

/-- All pieces that arrive while the reply to a command is waited for. -/
def replyPieces (timing : Timing) (command : Command) (start : Port) : List (List UInt8) :=
  let written := (writeCommand timing command start).port
  arrivals (written.clock + timing.readTimeout) written.clock written.reads

def warnings (records : List Record) : List Record :=
  records.filter fun record => record.level = .warn

@[simp] theorem warnings_append (earlier later : List Record) :
    warnings (earlier ++ later) = warnings earlier ++ warnings later :=
  List.filter_append ..

/-- The record of a reply that rejects a command. -/
def rejection (command : Command) (reply : List UInt8) : Record :=
  let text := Text.trimmed (String.ofList (Text.decodeUtf8 reply))
  ⟨.warn, .session, s!"Modem rejected {command.text}: {text}"⟩

def rejectionsIn (command : Command) (reply : List UInt8) : List Record :=
  if SpellsError reply then [rejection command reply] else []

theorem rejectionsIn_nil (command : Command) : rejectionsIn command [] = [] :=
  if_neg (by decide)

theorem warnings_noteReply (command : Command) (reply : List UInt8) (port : Port) :
    warnings (noteReply command (String.ofList (Text.decodeUtf8 reply)) port).records =
      rejectionsIn command reply := by
  rw [noteReply, rejectionsIn]
  by_cases spelled : SpellsError reply
  · rw [if_pos (isErrorReply_decodeUtf8_iff.mpr spelled), if_pos spelled]
    rfl
  · rw [if_neg (mt isErrorReply_decodeUtf8_iff.mp spelled), if_neg spelled]
    rfl

theorem readReply_of_ok {timing : Timing} {port : Port} {reply : Option String}
    (read : (readReply timing port).outcome = .ok reply) :
    ∃ bytes : Option (List UInt8),
      reply = bytes.map (fun bytes => String.ofList (Text.decodeUtf8 bytes)) ∧
      bytes.getD [] =
        firstPiece (arrivals (port.clock + timing.readTimeout) port.clock port.reads) := by
  rw [readReply_apply] at read
  obtain ⟨bytes, received, done, _⟩ := Session.exists_of_bind_ok read
  cases done
  exact ⟨bytes, rfl, receiveBytes_of_ok received⟩

theorem warnings_noteRead (command : Command) (bytes : Option (List UInt8)) (port : Port) :
    warnings (noteRead command (bytes.map fun bytes => String.ofList (Text.decodeUtf8 bytes))
      port).records = rejectionsIn command (bytes.getD []) := by
  cases bytes with
  | none => exact (rejectionsIn_nil command).symm
  | some reply => exact warnings_noteReply command reply port

theorem warnings_sendCommand {timing : Timing} {command : Command} {start : Port}
    {reply : Option String} (answered : (sendCommand timing command start).outcome = .ok reply) :
    warnings (sendCommand timing command start).records =
      rejectionsIn command (firstPiece (replyPieces timing command start)) := by
  rw [sendCommand_eq] at answered ⊢
  have inner := mapError_eq_ok_iff.mp answered
  obtain ⟨_, _, inner, announced⟩ := Session.exists_of_bind_ok inner
  obtain ⟨_, _, inner, written⟩ := Session.exists_of_bind_ok inner
  obtain ⟨received, read, inner, heard⟩ := Session.exists_of_bind_ok inner
  obtain ⟨bytes, rfl, first⟩ := readReply_of_ok read
  obtain ⟨_, _, _, noted⟩ := Session.exists_of_bind_ok inner
  simp only [Session.mapError, announced, written, heard, noted, records_writeCommand,
    records_readReply, warnings_append, warnings_noteRead, first, Session.pure_apply]
  simp [warnings, Session.emit, replyPieces]

theorem warnings_transmit (timing : Timing) (chunks : Chunks) (port : Port) :
    warnings (transmit timing chunks port).records =
      warnings (perform timing (plan timing chunks) port).records :=
  records_transmit (fun _ => rfl) timing chunks port

/-- A session warns of a command exactly if the first piece of the reply, as far as one read takes
it, has the word in it; and it has what the whole reply has if that is short and comes in one
piece. -/
theorem warnings_of_reply {timing : Timing} {chunks : Chunks} {port : Port}
    {before after : List Action} {command : Command} {reply : Option String}
    (place : plan timing chunks = before ++ .send command :: after)
    (reached : (perform timing before port).outcome = .ok ())
    (answered : (sendCommand timing command (perform timing before port).port).outcome =
      .ok reply) :
    let start := (perform timing before port).port
    let pieces := replyPieces timing command start
    warnings (transmit timing chunks port).records =
        warnings (perform timing before port).records ++
          (if SpellsError (firstPiece pieces) then [rejection command (firstPiece pieces)]
            else []) ++
          warnings (perform timing after (sendCommand timing command start).port).records ∧
      (pieces.length ≤ 1 → pieces.flatten.length ≤ readSize →
        firstPiece pieces = pieces.flatten) := by
  intro start pieces
  refine ⟨?_, firstPiece_of_short⟩
  have sent := Action.perform_send timing command start
  have succeeded : ((Action.send command).perform timing start).outcome = .ok () := by
    rw [sent]
    exact congrArg (·.map fun _ => ()) answered
  rw [warnings_transmit, place, perform_append, Session.bind_apply_of_ok reached]
  change warnings (_ ++ (perform timing (.send command :: after) start).records) = _
  rw [perform_cons_of_ok after succeeded, sent, warnings_append]
  change _ ++ warnings (_ ++ _) = _
  rw [warnings_append, warnings_sendCommand answered, List.append_assoc]
  rfl

/-- The reply to the second command is no text, and spells the word in both cases of letters. -/
theorem warnings_of_garbled_reply :
    let timing := Timing.ofSettings {} {}
    let garbled : List UInt8 := [0x65, 0x52, 0x72, 0x6F, 0x72, 0xB0]
    let port : Port := { reads := [.bytes [0x4F, 0x4B], .after 30, .bytes garbled] }
    warnings (transmit timing ⟨["ff"]⟩ port).records = [rejection .resetChannel garbled] := by
  intro timing garbled port
  have place : plan timing ⟨["ff"]⟩ = [.send .getInfo, .wait 1000] ++
      .send .resetChannel :: [.wait 1000, .send (.sendFrame "ff")] := by decide
  have reached : (perform timing [.send .getInfo, .wait 1000] port).outcome = .ok () := by
    decide +kernel
  have answered : (sendCommand timing .resetChannel
      (perform timing [.send .getInfo, .wait 1000] port).port).outcome =
        .ok (some (String.ofList (Text.decodeUtf8 garbled))) := by
    decide +kernel
  refine (warnings_of_reply place reached answered).1.trans ?_
  decide +kernel

/-- A rejection that comes in two pieces is not told of, though both come in time. -/
theorem split_rejection_not_told :
    let timing := Timing.ofSettings {} {}
    let port : Port :=
      { reads := [.bytes (Text.utf8Bytes "ERR"), .after 50, .bytes (Text.utf8Bytes "OR\r\n")] }
    (plan timing ⟨["ff"]⟩).head? = some (.send .getInfo) ∧
      SpellsError (replyPieces timing .getInfo port).flatten ∧
      (transmit timing ⟨["ff"]⟩ port).outcome = .ok 1 ∧
      warnings (transmit timing ⟨["ff"]⟩ port).records = [] := by
  decide +kernel

end MeterUplink.Modem
