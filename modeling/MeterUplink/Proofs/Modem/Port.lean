import MeterUplink.Proofs.Modem.Session

namespace MeterUplink.Modem

/-! What the far end of a port does with bytes when no deadline cuts it short, and how that
decides the fate of a write that has one. -/

/-- How a write ends if the far end is left alone with the bytes: all of them accepted at some
time, refused at some time, or neither ever. -/
inductive WriteEnd where
  | accepted (time : Nat)
  | refused (fault : PortFault) (time : Nat)
  | never
deriving Repr, DecidableEq

def writeEnd (clock : Nat) (pending : List UInt8) : List WriteStep → WriteEnd
  | [] => .accepted clock
  | .acceptAll :: _ => .accepted clock
  | .acceptAtMost count :: rest =>
    if count = 0 then .refused .nothingWritten clock
    else if pending.length ≤ count then .accepted clock
    else writeEnd clock (pending.drop count) rest
  | .after delay :: rest => writeEnd (endOfWait clock delay) pending rest
  | .readyAt time :: rest => writeEnd (max clock time) pending rest
  | .block :: _ => .never
  | .interrupted :: rest => writeEnd clock pending rest
  | .fails text :: _ => .refused (.reported text) clock

/-- Whether the write has ended, well or badly, when the deadline comes. -/
def WriteEnd.EndsBy (deadline : Nat) : WriteEnd → Prop
  | accepted time => time ≤ deadline
  | refused _ time => time ≤ deadline
  | never => False

theorem clock_le_of_endsBy {deadline clock : Nat} {pending : List UInt8} {steps : List WriteStep}
    (ends : (writeEnd clock pending steps).EndsBy deadline) : clock ≤ deadline := by
  induction steps generalizing clock pending with
  | nil => exact ends
  | cons step rest ih =>
      cases step with
      | acceptAll => exact ends
      | acceptAtMost count =>
          rw [writeEnd] at ends
          split at ends
          · exact ends
          · split at ends
            · exact ends
            · exact ih ends
      | after delay => exact Nat.le_trans (Nat.le_add_right _ _) (ih ends)
      | readyAt time => exact Nat.le_trans (Nat.le_max_left _ _) (ih ends)
      | block => exact ends.elim
      | interrupted => exact ih ends
      | fails text => exact ends

/-- Nothing but the deadline itself makes a write time out. -/
theorem writeEnd_ne_refused_timedOut {clock time : Nat} {pending : List UInt8}
    {steps : List WriteStep} : writeEnd clock pending steps ≠ .refused .timedOut time := by
  induction steps generalizing clock pending with
  | nil => exact nofun
  | cons step rest ih =>
      cases step with
      | acceptAll => exact nofun
      | acceptAtMost count =>
          rw [writeEnd]
          split
          · exact nofun
          · split
            · exact nofun
            · exact ih
      | after delay => exact ih
      | readyAt time => exact ih
      | block => exact nofun
      | interrupted => exact ih
      | fails text => exact nofun

/-- The fate of a write with a deadline. -/
inductive SendResult (deadline clock : Nat) (pending : List UInt8) (steps : List WriteStep)
    (sent : Sent) : Prop where
  /-- The far end accepts everything in time. -/
  | whole {time : Nat} (ends : writeEnd clock pending steps = .accepted time)
      (inTime : time ≤ deadline) (outcome : sent.outcome = .ok ()) (clock : sent.clock = time)
      (bytes : accepted sent.events = pending)
  | refused {fault : PortFault} {time : Nat}
      (ends : writeEnd clock pending steps = .refused fault time)
      (inTime : time ≤ deadline) (outcome : sent.outcome = .error fault)
      (clock : sent.clock = time) (bytes : accepted sent.events <+: pending)
  | late (ends : ¬ (writeEnd clock pending steps).EndsBy deadline)
      (outcome : sent.outcome = .error .timedOut) (clock : sent.clock = deadline)
      (bytes : accepted sent.events <+: pending)

/-- A step that accepts a piece, or none, and leaves the rest of the bytes to later steps. -/
theorem SendResult.cons {deadline clock next : Nat} {pending piece later : List UInt8}
    {steps rest : List WriteStep} {sent first : Sent}
    (result : SendResult deadline next later rest sent)
    (ends : writeEnd clock pending steps = writeEnd next later rest)
    (whole : piece ++ later = pending) (outcome : first.outcome = sent.outcome)
    (time : first.clock = sent.clock)
    (bytes : accepted first.events = piece ++ accepted sent.events) :
    SendResult deadline clock pending steps first := by
  have part (some : accepted sent.events <+: later) : accepted first.events <+: pending := by
    rw [bytes, ← whole]
    exact (List.prefix_append_right_inj piece).mpr some
  cases result with
  | whole ended inTime succeeded reached all =>
      exact .whole (ends.trans ended) inTime (outcome.trans succeeded) (time.trans reached)
        (by rw [bytes, all, whole])
  | refused ended inTime failed reached some =>
      exact .refused (ends.trans ended) inTime (outcome.trans failed) (time.trans reached)
        (part some)
  | late notEnded failed reached some =>
      exact .late (by rw [ends]; exact notEnded) (outcome.trans failed) (time.trans reached)
        (part some)

theorem sendBytes_result {deadline clock : Nat} (pending : List UInt8) (steps : List WriteStep)
    (inTime : clock ≤ deadline) :
    SendResult deadline clock pending steps (sendBytes deadline clock pending steps) := by
  induction steps generalizing clock pending with
  | nil => exact .whole rfl inTime rfl rfl (List.append_nil _)
  | cons step rest ih =>
      cases step with
      | acceptAll => exact .whole rfl inTime rfl rfl (List.append_nil _)
      | acceptAtMost count =>
          by_cases none : count = 0
          · simp only [sendBytes, none, if_true]
            exact .refused (by simp only [writeEnd, if_true]) inTime rfl rfl (List.nil_prefix)
          · by_cases last : pending.length ≤ count
            · simp only [sendBytes, none, if_false, last, if_true]
              exact .whole (by simp only [writeEnd, none, if_false, last, if_true]) inTime rfl rfl
                (List.append_nil _)
            · simp only [sendBytes, none, if_false, last]
              exact (ih _ inTime).cons (by simp only [writeEnd, none, if_false, last])
                (List.take_append_drop count pending) rfl rfl rfl
      | after delay =>
          rw [sendBytes]
          split
          case isTrue ready => exact (ih _ ready).cons rfl (List.nil_append _) rfl rfl rfl
          case isFalse notReady =>
            exact .late (fun ends => notReady (clock_le_of_endsBy ends)) rfl rfl List.nil_prefix
      | readyAt time =>
          rw [sendBytes]
          split
          case isTrue ready => exact (ih _ ready).cons rfl (List.nil_append _) rfl rfl rfl
          case isFalse notReady =>
            exact .late (fun ends => notReady (clock_le_of_endsBy ends)) rfl rfl List.nil_prefix
      | block => exact .late id rfl rfl List.nil_prefix
      | interrupted => exact (ih _ inTime).cons rfl (List.nil_append _) rfl rfl rfl
      | fails text => exact .refused rfl inTime rfl rfl List.nil_prefix

/-- Steps from which a read gets nothing and after which it goes on to the next. -/
def ReadStep.Silent : ReadStep → Prop
  | .bytes data => data = []
  | .after _ => True
  | .readyAt _ => True
  | .endOfFile => False
  | .fails _ => False

/-- A read fails only where the far end says so. -/
theorem receiveBytes_failed {deadline clock : Nat} {steps : List ReadStep} {fault : PortFault}
    (failed : (receiveBytes deadline clock steps).outcome = .error fault) :
    ∃ text skipped, fault = .reported text ∧ (∀ step ∈ skipped, step.Silent) ∧
      steps = skipped ++ .fails text :: (receiveBytes deadline clock steps).remaining := by
  have skip {step : ReadStep} {rest : List ReadStep} {later : Received} (silent : step.Silent)
      (found : ∃ text skipped, fault = .reported text ∧ (∀ step ∈ skipped, step.Silent) ∧
        rest = skipped ++ .fails text :: later.remaining) :
      ∃ text skipped, fault = .reported text ∧ (∀ step ∈ skipped, step.Silent) ∧
        step :: rest = skipped ++ .fails text :: later.remaining := by
    obtain ⟨text, skipped, reported, silents, split⟩ := found
    exact ⟨text, step :: skipped, reported, List.forall_mem_cons.mpr ⟨silent, silents⟩,
      by rw [split, List.cons_append]⟩
  induction steps generalizing clock with
  | nil => cases failed
  | cons step rest ih =>
      cases step with
      | bytes data =>
          rw [receiveBytes] at failed ⊢
          split at failed
          case isTrue empty =>
            rw [if_pos empty]
            exact skip (List.isEmpty_iff.mp empty) (ih failed)
          case isFalse some => cases failed
      | after delay =>
          rw [receiveBytes] at failed ⊢
          split at failed
          case isTrue ready =>
            rw [if_pos ready]
            exact skip trivial (ih failed)
          case isFalse notReady => cases failed
      | readyAt time =>
          rw [receiveBytes] at failed ⊢
          split at failed
          case isTrue ready =>
            rw [if_pos ready]
            exact skip trivial (ih failed)
          case isFalse notReady => cases failed
      | endOfFile => cases failed
      | fails text =>
          cases failed
          exact ⟨text, [], rfl, by simp, rfl⟩

end MeterUplink.Modem
