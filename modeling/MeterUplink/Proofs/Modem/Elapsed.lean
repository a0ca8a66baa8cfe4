import Mathlib.Data.Nat.Factorization.Basic
import Mathlib.Tactic.Ring
import MeterUplink.Proofs.Modem.Pace
import MeterUplink.Proofs.Modem.Passive

namespace MeterUplink.Modem

/-! How long a transmission takes. The waits of its plan are known before it starts; what the port
adds to them is the time in which it takes the bytes of the commands and the time in which it is
read from, and the timeouts bound both. -/

/-- The time for which a transmission of some frames waits of its own accord. -/
def ownWaits (timing : Timing) (frames : Nat) : Nat :=
  2 * frames * lasting timing.commandDelay + (frames - 1) * lasting timing.frameDelay +
    (if 0 < timing.pauseEvery then (frames - 1) / timing.pauseEvery else 0) *
      lasting timing.pauseDelay

theorem card_pausesBetween_one (timing : Timing) (frames : Nat) :
    (pausesBetween timing 1 frames).card =
      if 0 < timing.pauseEvery then (frames - 1) / timing.pauseEvery else 0 := by
  rw [pausesBetween]
  split
  case isTrue pauses =>
    have upTo : Finset.Ico 1 frames = Finset.Ioc 0 (frames - 1) := by
      ext k
      simp only [Finset.mem_Ico, Finset.mem_Ioc]
      omega
    simp only [pauses, true_and, upTo]
    exact Nat.Ioc_filter_dvd_card_eq_div _ _
  case isFalse never => simp [never]

/-- The plan ends with the last frame's own command: no delay follows it. -/
theorem plan_eq_of_last (timing : Timing) {chunks : Chunks} {frames : List String} {chunk : String}
    (place : chunks.texts = frames ++ [chunk]) :
    plan timing chunks =
      actionsBefore timing chunks.count frames ++ [.send (.sendFrame chunk)] := by
  have last : ¬ frames.length + 1 < chunks.count := by
    rw [Chunks.count, place, List.length_append, List.length_singleton]
    omega
  rw [plan, place, planFrom_append, Nat.zero_add, planFrom, planFrom, frameActions_eq,
    if_neg last, actionsBefore]
  simp only [List.append_assoc, List.append_nil]

theorem waiting_actionsBefore (timing : Timing) {total : Nat} (frames : List String)
    (last : frames.length + 1 = total) :
    waiting (actionsBefore timing total frames) = ownWaits timing total := by
  have never : pauseDue timing 0 = false := rfl
  subst last
  cases frames with
  | nil => simp [actionsBefore, planFrom, ownWaits, waiting_approach, never]
  | cons first between =>
      rw [List.length_cons]
      -- two command delays up to the first frame; from there the waits are those of the spacing
      have more : ([] : List String).length + 1 < between.length + 1 + 1 := by
        rw [List.length_nil]
        omega
      have within : 1 + between.length < between.length + 1 + 1 := by omega
      have rest := waiting_between timing Nat.one_pos within
      have upTo : 1 + (between.length + 1) = between.length + 1 + 1 := by omega
      rw [upTo, card_pausesBetween_one] at rest
      rw [← List.nil_append (first :: between), actionsBefore_append timing first between more,
        waiting_append, waiting_append, List.length_nil, Nat.zero_add, rest, actionsBefore, planFrom,
        List.nil_append, List.length_nil, waiting_approach, never, ownWaits]
      simp only [waiting, Bool.false_eq_true, if_false, Nat.add_sub_cancel, Nat.mul_zero,
        Nat.zero_add]
      ring

theorem waiting_plan (timing : Timing) (chunks : Chunks) :
    waiting (plan timing chunks) = ownWaits timing chunks.count := by
  rcases List.eq_nil_or_concat' chunks.texts with none | ⟨frames, chunk, place⟩
  · simp [plan, none, planFrom, waiting, ownWaits, Chunks.count]
  · have counted : frames.length + 1 = chunks.count := by
      rw [Chunks.count, place, List.length_append, List.length_singleton]
    rw [plan_eq_of_last timing place, waiting_append, waiting_actionsBefore timing frames counted]
    rfl

theorem length_commandsOf_plan (timing : Timing) (chunks : Chunks) :
    (commandsOf (plan timing chunks)).length = 3 * chunks.count := by
  rw [commandsOf_plan, Chunks.count]
  induction chunks.texts with
  | nil => rfl
  | cons chunk rest ih =>
      rw [List.flatMap_cons, List.length_append, ih, frameCommands, List.length_cons]
      simp only [List.length_cons, List.length_nil]
      omega

/-- A transmission that succeeds takes the time of its own waits and, for each of its commands, the
time in which the bytes are taken and the time in which a reply is waited for. On a passive port
the waits for replies are all that is added; on no port is more added than the timeouts allow. -/
theorem clock_transmit (timing : Timing) (chunks : Chunks) (port : Port) :
    let done := transmit timing chunks port
    let times := commandTimes timing (plan timing chunks) port
    (∀ sent, done.outcome = .ok sent →
      times.length = 3 * chunks.count ∧
      (∀ time ∈ times,
        time.writing ≤ timing.writeTimeout ∧ time.reading ≤ timing.readTimeout) ∧
      done.port.clock = port.clock + (ownWaits timing chunks.count +
        (times.map (·.writing)).sum + (times.map (·.reading)).sum)) ∧
    (port.Passive → done.outcome = .ok chunks.count ∧
      done.port.clock = port.clock +
        (ownWaits timing chunks.count + 3 * chunks.count * timing.readTimeout)) ∧
    done.port.clock ≤ port.clock + (ownWaits timing chunks.count +
      3 * chunks.count * (timing.writeTimeout + timing.readTimeout)) ∧
    (chunks.texts = [] → done = ⟨.ok 0, port, [], []⟩) := by
  intro done times
  have commands := length_commandsOf_plan timing chunks
  have waits := waiting_plan timing chunks
  have outcome := outcome_transmit timing chunks port
  have clock := congrArg Port.clock (port_transmit timing chunks port)
  refine ⟨fun sent succeeded => ?_, fun passive => ?_, ?_, fun none => ?_⟩
  · obtain ⟨_, performed, _⟩ := map_eq_ok_iff.mp (outcome.symm.trans succeeded)
    refine ⟨(length_commandTimes _ _ _).trans commands, commandTimes_le _ _ _, ?_⟩
    rw [← waits]
    exact clock.trans (clock_perform_of_ok performed)
  · obtain ⟨performed, taken⟩ := clock_perform_of_passive timing (plan timing chunks) passive
    rw [performed] at outcome
    rw [waits, commands] at taken
    exact ⟨outcome, clock.trans taken⟩
  · have bounded := clock_perform_le timing (plan timing chunks) port
    rw [waits, commands] at bounded
    exact clock.le.trans bounded
  · obtain ⟨texts⟩ := chunks
    obtain rfl : texts = [] := none
    rfl

/-- A port that is slow with one command and with one reply, one that only listens, and one that
blocks in the middle of a frame. -/
theorem clock_transmit_threeFrames :
    let timing := Timing.ofSettings {} {}
    let chunks : Chunks := ⟨["aa", "bb", "cc"]⟩
    let slow : Port :=
      { reads := [.after 300, .bytes [79, 75]], writes := [.acceptAll, .acceptAtMost 2, .after 500] }
    let silent : Port := { clock := 7, reads := [.after 50], writes := [.acceptAtMost 2] }
    let blocked : Port := { writes := [.acceptAll, .acceptAtMost 2, .block] }
    (transmit timing chunks slow).outcome = .ok 3 ∧
      (transmit timing chunks slow).port.clock = 0 + (46000 + 500 + 8300) ∧
      (transmit timing chunks silent).outcome = .ok 3 ∧
      (transmit timing chunks silent).port.clock = 7 + (46000 + 9000) ∧
      (transmit timing chunks blocked).port.clock ≤ 0 + (46000 + 9 * (2000 + 1000)) ∧
      transmit timing ⟨[]⟩ blocked = ⟨.ok 0, blocked, [], []⟩ := by
  intro timing chunks slow silent blocked
  have own : ownWaits timing chunks.count = 46000 := by decide +kernel
  have heard : 3 * chunks.count * timing.readTimeout = 9000 := by decide +kernel
  have succeeded : (transmit timing chunks slow).outcome = .ok 3 := by decide +kernel
  have times : commandTimes timing (plan timing chunks) slow =
      ⟨0, 300⟩ :: ⟨500, 1000⟩ :: List.replicate 7 ⟨0, 1000⟩ := by decide +kernel
  have passive : silent.Passive :=
    ⟨by simp [silent, WriteStep.Prompt], by simp [silent], by simp [silent, ReadStep.Silent]⟩
  obtain ⟨taken, _, _, _⟩ := clock_transmit timing chunks slow
  obtain ⟨_, _, exactly⟩ := taken 3 succeeded
  obtain ⟨_, alone, _, _⟩ := clock_transmit timing chunks silent
  obtain ⟨allSent, ended⟩ := alone passive
  obtain ⟨_, _, bounded, _⟩ := clock_transmit timing chunks blocked
  obtain ⟨_, _, _, nothing⟩ := clock_transmit timing ⟨[]⟩ blocked
  rw [times, own] at exactly
  rw [own, heard] at ended
  rw [own] at bounded
  exact ⟨succeeded, exactly, allSent, ended, bounded, nothing rfl⟩

/-- A delay of more than thirty years is cut short, so a transmission to a silent modem ends before
the time that its delays add up to. -/
theorem uncut_delay_not_waited_for :
    let timing := Timing.ofSettings {} { commandDelayMs := 1000000000000 }
    (transmit timing ⟨["ff"]⟩ {}).outcome = .ok 1 ∧
      (transmit timing ⟨["ff"]⟩ {}).port.clock = 1892160003000 ∧
      (transmit timing ⟨["ff"]⟩ {}).port.clock ≠
        2 * 1 * timing.commandDelay + (1 - 1) * timing.frameDelay +
          (1 - 1) / timing.pauseEvery * timing.pauseDelay + 3 * 1 * timing.readTimeout := by
  decide +kernel

end MeterUplink.Modem
