import Mathlib.Algebra.BigOperators.Intervals
import Mathlib.Algebra.Order.BigOperators.Group.Finset
import MeterUplink.Proofs.Modem.Clock

namespace MeterUplink.Modem

/-! The pace of a plan: what it has in front of each frame, and how long the waits are that it has
between two of them. -/

/-- The commands in front of a frame's own, after the frames before it. -/
def commandsBefore (frames : List String) : List Command :=
  frames.flatMap frameCommands ++ [.getInfo, .resetChannel]

theorem commandsBefore_append (frames between : List String) (chunk : String) :
    commandsBefore (frames ++ chunk :: between) =
      commandsBefore frames ++ .sendFrame chunk :: commandsBefore between := by
  simp only [commandsBefore, frameCommands, List.flatMap_append, List.flatMap_cons,
    List.append_assoc, List.cons_append, List.nil_append]

/-- The actions up to the command that sends the frame itself. -/
def approach (timing : Timing) (sent : Nat) : List Action :=
  (if pauseDue timing sent then [.wait timing.pauseDelay] else []) ++
    [.send .getInfo, .wait timing.commandDelay, .send .resetChannel, .wait timing.commandDelay]

theorem frameActions_eq (timing : Timing) (total sent : Nat) (chunk : String) :
    frameActions timing total sent chunk = approach timing sent ++ .send (.sendFrame chunk) ::
      (if sent + 1 < total then [.wait timing.frameDelay] else []) := by
  simp only [frameActions, approach, List.append_assoc, List.cons_append, List.nil_append]

theorem planFrom_append (timing : Timing) (total sent : Nat) (before after : List String) :
    planFrom timing total sent (before ++ after) =
      planFrom timing total sent before ++
        planFrom timing total (sent + before.length) after := by
  induction before generalizing sent with
  | nil => rfl
  | cons chunk rest ih =>
      rw [List.cons_append, planFrom, planFrom, ih, List.append_assoc, List.length_cons,
        Nat.add_assoc, Nat.add_comm 1]

theorem commandsOf_approach (timing : Timing) (sent : Nat) :
    commandsOf (approach timing sent) = [.getInfo, .resetChannel] := by
  rw [approach, commandsOf_append]
  split <;> rfl

/-- The actions in front of the command that sends the frame after some others. -/
def actionsBefore (timing : Timing) (total : Nat) (frames : List String) : List Action :=
  planFrom timing total 0 frames ++ approach timing frames.length

theorem commandsOf_actionsBefore (timing : Timing) (total : Nat) (frames : List String) :
    commandsOf (actionsBefore timing total frames) = commandsBefore frames := by
  rw [actionsBefore, commandsOf_append, commandsOf_planFrom, commandsOf_approach, commandsBefore]

theorem exists_plan_eq (timing : Timing) {chunks : Chunks} {frames others : List String}
    {chunk : String} (place : chunks.texts = frames ++ chunk :: others) :
    ∃ after, plan timing chunks =
      actionsBefore timing chunks.count frames ++ .send (.sendFrame chunk) :: after := by
  rw [plan, place, planFrom_append, Nat.zero_add, planFrom, frameActions_eq, actionsBefore]
  simp only [List.append_assoc, List.cons_append]
  exact ⟨_, rfl⟩

/-- The actions in front of a later frame are those up to an earlier one, and a delay. -/
theorem actionsBefore_append (timing : Timing) {total : Nat} {frames : List String}
    (chunk : String) (between : List String) (more : frames.length + 1 < total) :
    actionsBefore timing total (frames ++ chunk :: between) =
      (actionsBefore timing total frames ++ [.send (.sendFrame chunk)]) ++
        (.wait timing.frameDelay :: planFrom timing total (frames.length + 1) between ++
          approach timing (frames.length + 1 + between.length)) := by
  have counted : (frames ++ chunk :: between).length = frames.length + 1 + between.length := by
    rw [List.length_append, List.length_cons]
    omega
  rw [actionsBefore, counted, planFrom_append, Nat.zero_add, planFrom, frameActions_eq,
    if_pos more, actionsBefore]
  simp only [List.append_assoc, List.cons_append, List.nil_append]

/-! How long the waits between two frames are. -/

/-- The frames after which a pause is due, from one number up to another. -/
def pausesBetween (timing : Timing) (first last : Nat) : Finset Nat :=
  (Finset.Ico first last).filter fun sent => 0 < timing.pauseEvery ∧ timing.pauseEvery ∣ sent

theorem pauseDue_iff {timing : Timing} {sent : Nat} (some : 0 < sent) :
    pauseDue timing sent = true ↔ 0 < timing.pauseEvery ∧ timing.pauseEvery ∣ sent := by
  simp only [pauseDue, some, decide_true, Bool.true_and, Bool.and_eq_true, decide_eq_true_eq,
    beq_iff_eq, Nat.dvd_iff_mod_eq_zero]

theorem card_pausesBetween_self (timing : Timing) (sent : Nat) :
    (pausesBetween timing sent sent).card = 0 := by
  rw [pausesBetween, Finset.Ico_self, Finset.filter_empty, Finset.card_empty]

theorem card_pausesBetween_of_lt (timing : Timing) {first last : Nat} (some : 0 < first)
    (order : first < last) :
    (pausesBetween timing first last).card =
      (if pauseDue timing first then 1 else 0) + (pausesBetween timing (first + 1) last).card := by
  simp only [pausesBetween, Finset.card_filter, Finset.sum_eq_sum_Ico_succ_bot order,
    pauseDue_iff some]

theorem waiting_approach (timing : Timing) (sent : Nat) :
    waiting (approach timing sent) =
      lasting timing.pauseDelay * (if pauseDue timing sent then 1 else 0) +
        2 * lasting timing.commandDelay := by
  rw [approach, waiting_append]
  split <;> simp only [waiting] <;> omega

theorem waiting_frameActions {timing : Timing} {total sent : Nat} (chunk : String)
    (more : sent + 1 < total) :
    waiting (frameActions timing total sent chunk) =
      waiting (approach timing sent) + lasting timing.frameDelay := by
  rw [frameActions_eq, if_pos more, waiting_append]
  rfl

/-- Between two frames lie a frame delay and two command delays for each step from one frame to
the next, and the pauses that are due. -/
theorem waiting_between (timing : Timing) {total sent : Nat} {between : List String}
    (some : 0 < sent) (more : sent + between.length < total) :
    waiting (.wait timing.frameDelay :: planFrom timing total sent between ++
        approach timing (sent + between.length)) =
      (between.length + 1) * (lasting timing.frameDelay + 2 * lasting timing.commandDelay) +
        lasting timing.pauseDelay *
          (pausesBetween timing sent (sent + (between.length + 1))).card := by
  induction between generalizing sent with
  | nil =>
      -- no frame between: one delay, and a pause if one is due after the frame itself
      have last := card_pausesBetween_of_lt timing some (Nat.lt_succ_self sent)
      rw [card_pausesBetween_self, Nat.add_zero] at last
      simp only [planFrom, List.length_nil, Nat.zero_add, Nat.one_mul, Nat.add_zero, waiting,
        waiting_approach, last, List.cons_append, List.nil_append]
      omega
  | cons chunk rest ih =>
      rw [List.length_cons] at more ⊢
      have next : sent + 1 < total := by omega
      have shifted : sent + (rest.length + 1) = sent + 1 + rest.length := by omega
      have pauses := card_pausesBetween_of_lt timing some
        (show sent < sent + (rest.length + 1 + 1) by omega)
      have same : sent + 1 + (rest.length + 1) = sent + (rest.length + 1 + 1) := by omega
      have later := ih (show 0 < sent + 1 by omega) (by omega)
      simp only [planFrom, List.cons_append, List.append_assoc, waiting, waiting_append,
        waiting_frameActions chunk next, waiting_approach, shifted, same] at later ⊢
      rw [pauses, Nat.mul_add (lasting timing.pauseDelay), Nat.succ_mul (rest.length + 1)]
      omega

end MeterUplink.Modem
