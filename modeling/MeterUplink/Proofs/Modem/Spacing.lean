import MeterUplink.Proofs.Modem.FailureSafety
import MeterUplink.Proofs.Modem.Pace

namespace MeterUplink.Modem

/-! The duty cycle. However the far end delays and however a transmission ends, two frames whose
commands it accepted are apart by all the waits that the plan has between them. -/

/-- The bytes that the far end accepted, in order, each with the time at which it did. -/
def stamped (events : List PortEvent) : List (UInt8 × Nat) :=
  (events.filter fun event => event.direction = .written).flatMap fun event =>
    event.bytes.map fun byte => (byte, event.time)

@[simp] theorem stamped_append (earlier later : List PortEvent) :
    stamped (earlier ++ later) = stamped earlier ++ stamped later := by
  simp only [stamped, List.filter_append, List.flatMap_append]

theorem map_fst_stamped (events : List PortEvent) :
    (stamped events).map Prod.fst = accepted events := by
  simp only [stamped, accepted, List.map_flatMap, List.map_map]
  congr 1
  funext event
  exact List.map_id _

theorem length_eq_of_map_fst {first second : List (UInt8 × Nat)}
    (same : first.map Prod.fst = second.map Prod.fst) : first.length = second.length := by
  rw [← List.length_map Prod.fst, same, List.length_map]

theorem Within.stamped {first last : Nat} {events : List PortEvent}
    (within : Within first last events) :
    ∀ entry ∈ stamped events, first ≤ entry.2 ∧ entry.2 ≤ last := by
  intro entry member
  obtain ⟨event, written, member⟩ := List.mem_flatMap.mp member
  obtain ⟨byte, _, rfl⟩ := List.mem_map.mp member
  exact within event (List.mem_of_mem_filter written)

/-- The port accepted all of the `AT$SF` command of a frame, numbered from 1: its first byte at
one time and its last byte at another. -/
inductive FrameAccepted (timing : Timing) (chunks : Chunks) (events : List PortEvent)
    (number first last : Nat) : Prop where
  | mk {frames others : List String} {chunk : String} {earlier own later : List (UInt8 × Nat)}
      (place : chunks.texts = frames ++ chunk :: others) (counted : frames.length + 1 = number)
      (split : stamped events = earlier ++ own ++ later)
      (before : earlier.map Prod.fst = wireBytes timing.terminator (commandsBefore frames))
      (whole : own.map Prod.fst = (Command.sendFrame chunk).encode timing.terminator)
      (begins : own.head?.map Prod.snd = some first)
      (ends : own.getLast?.map Prod.snd = some last)

theorem FrameAccepted.of_cut {timing : Timing} {chunks : Chunks} {events : List PortEvent}
    {number first last : Nat} (frames : List String) (chunk : String) (others : List String)
    (start size : Nat) (place : chunks.texts = frames ++ chunk :: others)
    (counted : frames.length + 1 = number)
    (before : ((stamped events).take start).map Prod.fst =
      wireBytes timing.terminator (commandsBefore frames))
    (whole : (((stamped events).drop start).take size).map Prod.fst =
      (Command.sendFrame chunk).encode timing.terminator)
    (begins : (((stamped events).drop start).take size).head?.map Prod.snd = some first)
    (ends : (((stamped events).drop start).take size).getLast?.map Prod.snd = some last) :
    FrameAccepted timing chunks events number first last := by
  refine .mk place counted (?_ : _ = _ ++ _ ++ ((stamped events).drop start).drop size) before
    whole begins ends
  rw [List.append_assoc, List.take_append_drop, List.take_append_drop]

/-! Where the bytes of a performed plan fall in time. -/

theorem accepted_perform_of_ok {timing : Timing} {actions : List Action} {port : Port}
    (succeeded : (perform timing actions port).outcome = .ok ()) :
    accepted (perform timing actions port).events =
      wireBytes timing.terminator (commandsOf actions) := by
  cases perform_result timing actions port with
  | whole outcome bytes => exact bytes
  | failed place reached cause outcome bytes =>
      rw [outcome] at succeeded
      cases succeeded

theorem perform_append_of_ok {timing : Timing} {before : List Action} {port : Port}
    (after : List Action) (succeeded : (perform timing before port).outcome = .ok ()) :
    perform timing (before ++ after) port =
      let later := perform timing after (perform timing before port).port
      ⟨later.outcome, later.port, (perform timing before port).events ++ later.events,
        (perform timing before port).records ++ later.records⟩ := by
  rw [perform_append, Session.bind_apply_of_ok succeeded]

theorem perform_ok_of_append {timing : Timing} {before after : List Action} {port : Port}
    (succeeded : (perform timing (before ++ after) port).outcome = .ok ()) :
    (perform timing before port).outcome = .ok () := by
  cases outcome : (perform timing before port).outcome with
  | ok _ => rfl
  | error e =>
      rw [perform_append, Session.bind_apply_of_error outcome] at succeeded
      cases succeeded

/-- More bytes than some first actions send are accepted only after these have succeeded. -/
theorem perform_ok_of_reached {timing : Timing} {before after : List Action} {port : Port}
    (reached : (wireBytes timing.terminator (commandsOf before)).length <
      (accepted (perform timing (before ++ after) port).events).length) :
    (perform timing before port).outcome = .ok () := by
  cases perform_result timing before port with
  | whole outcome bytes => exact outcome
  | failed place succeeded cause outcome bytes =>
      -- a failure leaves a part of a command at the end, so fewer bytes than these actions send
      rw [perform_append, Session.bind_apply_of_error outcome, bytes] at reached
      have short := cause.cut.length_le
      rw [place, commandsOf_append, commandsOf_send, wireBytes_append, wireBytes_cons] at reached
      simp only [List.length_append] at reached
      omega

/-- What the port accepts of some first actions and what it accepts of some last ones is apart by
the waits among those in the middle. -/
theorem stamped_apart {timing : Timing} {opening middle closing : List Action} {port : Port}
    (reached : (wireBytes timing.terminator (commandsOf (opening ++ middle))).length <
      (accepted (perform timing (opening ++ middle ++ closing) port).events).length) :
    ∃ early between late time,
      stamped (perform timing (opening ++ middle ++ closing) port).events =
        early ++ between ++ late ∧
      early.map Prod.fst = wireBytes timing.terminator (commandsOf opening) ∧
      (early ++ between).map Prod.fst =
        wireBytes timing.terminator (commandsOf (opening ++ middle)) ∧
      (∀ entry ∈ early, entry.2 ≤ time) ∧ ∀ entry ∈ late, time + waiting middle ≤ entry.2 := by
  have both := perform_ok_of_reached reached
  have one := perform_ok_of_append both
  have whole := perform_append_of_ok middle one
  have begun := timely_perform timing opening port
  have ended := timely_perform timing closing (perform timing (opening ++ middle) port).port
  have waited : (perform timing opening port).port.clock + waiting middle ≤
      (perform timing (opening ++ middle) port).port.clock := by
    rw [whole] at both ⊢
    exact clock_add_waiting_le both
  have split : stamped (perform timing (opening ++ middle) port).events =
      stamped (perform timing opening port).events ++
        stamped (perform timing middle (perform timing opening port).port).events := by
    rw [whole, stamped_append]
  refine ⟨stamped (perform timing opening port).events,
    stamped (perform timing middle (perform timing opening port).port).events,
    stamped (perform timing closing (perform timing (opening ++ middle) port).port).events,
    (perform timing opening port).port.clock, ?_, ?_, ?_,
    fun entry member => (begun.within.stamped entry member).2,
    fun entry member => Nat.le_trans waited (ended.within.stamped entry member).1⟩
  · rw [perform_append_of_ok closing both, stamped_append, split]
  · rw [map_fst_stamped, accepted_perform_of_ok one]
  · rw [← split, map_fst_stamped, accepted_perform_of_ok both]

/-! From one frame to another. -/

theorem encode_ne_nil (command : Command) (terminator : String) :
    command.encode terminator ≠ [] := by
  have opens : ∃ rest, command.encode terminator = 0x41 :: rest := by
    rw [Command.encode, Text.utf8Bytes_append]
    cases command with
    | getInfo => exact ⟨_, rfl⟩
    | resetChannel => exact ⟨_, rfl⟩
    | sendFrame chunk =>
        rw [Command.text, Text.utf8Bytes_append]
        exact ⟨_, rfl⟩
  obtain ⟨rest, opens⟩ := opens
  rw [opens]
  exact List.cons_ne_nil _ rest

theorem exists_between {texts frames frames' others others' : List String} {chunk chunk' : String}
    (place : texts = frames ++ chunk :: others) (place' : texts = frames' ++ chunk' :: others')
    (order : frames.length < frames'.length) :
    ∃ between, frames' = frames ++ chunk :: between := by
  have first : frames ++ [chunk] <+: texts := ⟨others, by rw [place, ← List.append_cons]⟩
  have second : frames' <+: texts := ⟨chunk' :: others', place'.symm⟩
  have shorter : (frames ++ [chunk]).length ≤ frames'.length := by
    rw [List.length_append, List.length_singleton]
    omega
  obtain ⟨between, whole⟩ := List.prefix_of_prefix_length_le first second shorter
  exact ⟨between, by rw [← whole, ← List.append_cons]⟩

theorem exists_cons_split {frames : List String} {count : Nat} (short : count < frames.length) :
    ∃ before chunk after, frames = before ++ chunk :: after ∧ before.length = count := by
  refine ⟨frames.take count, frames[count], frames.drop (count + 1), ?_, ?_⟩
  · rw [List.getElem_cons_drop, List.take_append_drop]
  · rw [List.length_take, Nat.min_eq_left (Nat.le_of_lt short)]

section

variable {timing : Timing} {chunks : Chunks} {port : Port} {events : List PortEvent}
  {i j first last first' last' : Nat} {frames others : List String} {chunk : String}

namespace FrameAccepted

theorem exists_place (done : FrameAccepted timing chunks events i first last) :
    ∃ frames chunk others, chunks.texts = frames ++ chunk :: others ∧ frames.length + 1 = i := by
  obtain ⟨place, counted, _, _, _, _, _⟩ := done
  exact ⟨_, _, _, place, counted⟩

variable (done : FrameAccepted timing chunks events i first last)
  (place : chunks.texts = frames ++ chunk :: others) (counted : frames.length + 1 = i)

include done place counted

theorem exists_split : ∃ front own back, stamped events = front ++ own ++ back ∧
    front.map Prod.fst = wireBytes timing.terminator (commandsBefore frames) ∧
    own.map Prod.fst = (Command.sendFrame chunk).encode timing.terminator ∧
    own.head?.map Prod.snd = some first ∧ own.getLast?.map Prod.snd = some last := by
  obtain ⟨place', counted', split, before, whole, begins, ends⟩ := done
  obtain ⟨rfl, same⟩ := List.append_inj (place.symm.trans place') (by omega)
  obtain ⟨rfl, rfl⟩ := List.cons.inj same
  exact ⟨_, _, _, split, before, whole, begins, ends⟩

/-- The first byte of the frame's command is among those behind the commands before it. -/
theorem exists_first {early late : List (UInt8 × Nat)} (cut : stamped events = early ++ late)
    (sent : early.map Prod.fst = wireBytes timing.terminator (commandsBefore frames)) :
    ∃ entry ∈ late, entry.2 = first := by
  obtain ⟨front, own, back, split, before, _, begins, _⟩ := done.exists_split place counted
  obtain ⟨entry, atHead, time⟩ := Option.map_eq_some_iff.mp begins
  rw [cut, List.append_assoc] at split
  obtain ⟨rfl, rfl⟩ := List.append_inj split (length_eq_of_map_fst (sent.trans before.symm))
  exact ⟨entry, List.mem_append_left back (List.mem_of_head? atHead), time⟩

theorem exists_last {early late : List (UInt8 × Nat)} (cut : stamped events = early ++ late)
    (sent : early.map Prod.fst =
      wireBytes timing.terminator (commandsBefore frames ++ [.sendFrame chunk])) :
    ∃ entry ∈ early, entry.2 = last := by
  obtain ⟨front, own, back, split, before, whole, _, ends⟩ := done.exists_split place counted
  obtain ⟨entry, atEnd, time⟩ := Option.map_eq_some_iff.mp ends
  have same : early.map Prod.fst = (front ++ own).map Prod.fst := by
    rw [sent, wireBytes_append, wireBytes_cons, wireBytes_nil, List.append_nil, List.map_append,
      before, whole]
  rw [cut] at split
  obtain ⟨rfl, rfl⟩ := List.append_inj split (length_eq_of_map_fst same)
  exact ⟨entry, List.mem_append_right front (List.mem_of_getLast? atEnd), time⟩

theorem prefix_accepted :
    wireBytes timing.terminator (commandsBefore frames ++ [.sendFrame chunk]) <+:
      accepted events := by
  obtain ⟨front, own, back, split, before, whole, _, _⟩ := done.exists_split place counted
  rw [← map_fst_stamped, split, List.map_append, List.map_append, before, whole,
    wireBytes_append, wireBytes_cons, wireBytes_nil, List.append_nil]
  exact List.prefix_append _ _

theorem reached : (wireBytes timing.terminator (commandsBefore frames)).length <
    (accepted events).length := by
  have long := (done.prefix_accepted place counted).length_le
  have some := List.length_pos_iff.mpr (encode_ne_nil (.sendFrame chunk) timing.terminator)
  rw [wireBytes_append, wireBytes_cons, wireBytes_nil, List.append_nil, List.length_append] at long
  omega

end FrameAccepted

/-- A frame was accepted if the bytes up to the end of its command were. -/
theorem exists_frameAccepted_iff (place : chunks.texts = frames ++ chunk :: others)
    (counted : frames.length + 1 = i) :
    (∃ first last, FrameAccepted timing chunks events i first last) ↔
      wireBytes timing.terminator (commandsBefore frames ++ [.sendFrame chunk]) <+:
        accepted events := by
  constructor
  · rintro ⟨first, last, done⟩
    exact done.prefix_accepted place counted
  · rintro ⟨rest, cut⟩
    rw [← map_fst_stamped, wireBytes_append, wireBytes_cons, wireBytes_nil, List.append_nil] at cut
    obtain ⟨head, back, split, sent, -⟩ := List.map_eq_append_iff.mp cut.symm
    obtain ⟨front, own, rfl, before, whole⟩ := List.map_eq_append_iff.mp sent
    have some : own ≠ [] := by
      rintro rfl
      exact encode_ne_nil _ _ whole.symm
    exact ⟨_, _, .mk place counted split before whole
      (by rw [List.head?_eq_some_head some, Option.map_some])
      (by rw [List.getLast?_eq_some_getLast some, Option.map_some])⟩

/-- The frames in front of one that was accepted were accepted as well. -/
theorem exists_frameAccepted_of_le (later : FrameAccepted timing chunks events j first' last')
    (positive : 0 < i) (order : i ≤ j) :
    ∃ first last, FrameAccepted timing chunks events i first last := by
  rcases Nat.eq_or_lt_of_le order with rfl | order
  · exact ⟨first', last', later⟩
  · obtain ⟨frames, chunk, others, place, counted⟩ := later.exists_place
    have reached := later.prefix_accepted place counted
    obtain ⟨frames', chunk', between, rfl, counted'⟩ :=
      exists_cons_split (show i - 1 < frames.length by omega)
    rw [List.append_assoc, List.cons_append] at place
    refine (exists_frameAccepted_iff place (by omega)).mpr (List.IsPrefix.trans ?_ reached)
    rw [commandsBefore_append, List.append_assoc, List.cons_append, wireBytes_append,
      wireBytes_append, wireBytes_cons, wireBytes_cons]
    exact (List.prefix_append_right_inj _).mpr ((List.prefix_append_right_inj _).mpr List.nil_prefix)

/-- Between two frames that were accepted lie all the waits that the plan has between them. -/
theorem last_add_waiting_le
    (earlier : FrameAccepted timing chunks (transmit timing chunks port).events i first last)
    (later : FrameAccepted timing chunks (transmit timing chunks port).events j first' last')
    (order : i < j) :
    last + ((j - i) * (lasting timing.frameDelay + 2 * lasting timing.commandDelay) +
      lasting timing.pauseDelay * (pausesBetween timing i j).card) ≤ first' := by
  rw [events_transmit] at earlier later
  obtain ⟨frames, chunk, others, place, counted⟩ := earlier.exists_place
  obtain ⟨frames', chunk', others', place', counted'⟩ := later.exists_place
  obtain ⟨between, rfl⟩ := exists_between place place' (by omega)
  -- the plan is cut in three: up to the earlier frame's command, up to the later one's, the rest
  obtain ⟨closing, planned⟩ := exists_plan_eq timing place'
  rw [List.length_append, List.length_cons] at counted'
  have total : frames.length + 1 + between.length < chunks.count := by
    rw [Chunks.count, place', List.length_append, List.length_append, List.length_cons,
      List.length_cons]
    omega
  have delayed := actionsBefore_append timing chunk between
    (show frames.length + 1 < chunks.count by omega)
  have sent := commandsOf_actionsBefore timing chunks.count (frames ++ chunk :: between)
  have waits := waiting_between timing (Nat.succ_pos frames.length) total
  rw [delayed] at planned sent
  rw [planned] at earlier later
  have reached := later.reached place' (by rw [List.length_append, List.length_cons]; omega)
  rw [← sent] at reached
  obtain ⟨early, middle, late, time, apart, early_sent, middle_sent, low, high⟩ :=
    stamped_apart reached
  rw [commandsOf_append, commandsOf_actionsBefore] at early_sent
  rw [sent] at middle_sent
  -- the earlier frame ends where the first part does, the later one begins after the second
  obtain ⟨entry, inEarly, rfl⟩ := earlier.exists_last place counted
    (by rw [apart, List.append_assoc]) early_sent
  obtain ⟨entry', inLate, rfl⟩ := later.exists_first place'
    (by rw [List.length_append, List.length_cons]; omega) apart middle_sent
  have early_time := low entry inEarly
  have late_time := high entry' inLate
  have steps : between.length + 1 = j - i := by omega
  have upTo : i + (j - i) = j := by omega
  rw [waits, steps, Nat.succ_eq_add_one, counted, upTo] at late_time
  omega

end

theorem exists_multiple {period : Nat} (first : Nat) (positive : 0 < period) :
    ∃ k, first ≤ k ∧ k < first + period ∧ period ∣ k := by
  have below := Nat.mul_div_le (first + period - 1) period
  have above := Nat.lt_mul_div_succ (first + period - 1) positive
  rw [Nat.mul_add, Nat.mul_one] at above
  exact ⟨period * ((first + period - 1) / period), by omega, by omega, Nat.dvd_mul_right _ _⟩

/-- Frames that were accepted in one transmission are apart by every frame delay, command delay
and pause that the duty cycle has between them. Hence a whole pause lies between two neighbours
among any frames that are one more than the pause is for. -/
theorem transmit_spacing (timing : Timing) (chunks : Chunks) (port : Port) :
    (∀ i j first last first' last', i < j →
      FrameAccepted timing chunks (transmit timing chunks port).events i first last →
      FrameAccepted timing chunks (transmit timing chunks port).events j first' last' →
      last + ((j - i) * (lasting timing.frameDelay + 2 * lasting timing.commandDelay) +
        lasting timing.pauseDelay * (pausesBetween timing i j).card) ≤ first') ∧
    ∀ i first last, 0 < timing.pauseEvery → 0 < i →
      FrameAccepted timing chunks (transmit timing chunks port).events
        (i + timing.pauseEvery) first last →
      ∃ k first last first' last', i ≤ k ∧ k < i + timing.pauseEvery ∧
        FrameAccepted timing chunks (transmit timing chunks port).events k first last ∧
        FrameAccepted timing chunks (transmit timing chunks port).events (k + 1) first' last' ∧
        last + (lasting timing.frameDelay + 2 * lasting timing.commandDelay +
          lasting timing.pauseDelay) ≤ first' := by
  refine ⟨fun i j first last first' last' order earlier later =>
    last_add_waiting_le earlier later order, fun i first last pauses positive accepted => ?_⟩
  obtain ⟨k, low, high, multiple⟩ := exists_multiple i pauses
  obtain ⟨first, last, earlier⟩ := exists_frameAccepted_of_le accepted (by omega)
    (Nat.le_of_lt high)
  obtain ⟨first', last', later⟩ := exists_frameAccepted_of_le accepted (Nat.succ_pos k) high
  have due : pauseDue timing k = true := (pauseDue_iff (by omega)).mpr ⟨pauses, multiple⟩
  have one := card_pausesBetween_of_lt timing (show 0 < k by omega)
    (Nat.lt_succ_self k)
  have apart := last_add_waiting_le earlier later (Nat.lt_succ_self k)
  rw [card_pausesBetween_self, if_pos due] at one
  rw [one, Nat.succ_sub (Nat.le_refl k), Nat.sub_self] at apart
  exact ⟨k, first, last, first', last', low, high, earlier, later, by omega⟩

/-- A port that is slow with the first reply and with the first frame. -/
def slowPort : Port where
  reads := [.after 300, .bytes [79, 75]]
  writes := [.acceptAll, .acceptAll, .acceptAtMost 3, .after 500]

def pacedTiming (frameDelay : Nat) : Timing where
  terminator := "\r"
  commandDelay := 1000
  frameDelay := frameDelay
  pauseEvery := 2
  pauseDelay := 20000
  readTimeout := 1000
  writeTimeout := 2000

def threeFrames : Chunks := ⟨["aa", "bb", "cc"]⟩

theorem transmit_spacing_slowPort :
    FrameAccepted (pacedTiming 10000) threeFrames
        (transmit (pacedTiming 10000) threeFrames slowPort).events 1 3300 3800 ∧
      FrameAccepted (pacedTiming 10000) threeFrames
        (transmit (pacedTiming 10000) threeFrames slowPort).events 3 53800 53800 ∧
      3800 + ((3 - 1) * (lasting 10000 + 2 * lasting 1000) +
        lasting 20000 * (pausesBetween (pacedTiming 10000) 1 3).card) ≤ 53800 ∧
      ∃ k first last first' last', 1 ≤ k ∧ k < 3 ∧
        FrameAccepted (pacedTiming 10000) threeFrames
          (transmit (pacedTiming 10000) threeFrames slowPort).events k first last ∧
        FrameAccepted (pacedTiming 10000) threeFrames
          (transmit (pacedTiming 10000) threeFrames slowPort).events (k + 1) first' last' ∧
        last + (lasting 10000 + 2 * lasting 1000 + lasting 20000) ≤ first' := by
  have first : FrameAccepted (pacedTiming 10000) threeFrames
      (transmit (pacedTiming 10000) threeFrames slowPort).events 1 3300 3800 :=
    .of_cut [] "aa" ["bb", "cc"] 13 9 rfl rfl (by decide +kernel)
      (by decide +kernel) (by decide +kernel) (by decide +kernel)
  have third : FrameAccepted (pacedTiming 10000) threeFrames
      (transmit (pacedTiming 10000) threeFrames slowPort).events 3 53800 53800 :=
    .of_cut ["aa", "bb"] "cc" [] 57 9 rfl rfl (by decide +kernel)
      (by decide +kernel) (by decide +kernel) (by decide +kernel)
  obtain ⟨spaced, paused⟩ := transmit_spacing (pacedTiming 10000) threeFrames slowPort
  exact ⟨first, third, spaced 1 3 _ _ _ _ (by decide) first third,
    paused 1 _ _ (by decide) (by decide) third⟩

/-- A delay of more than thirty years is cut short, so two frames come closer than it asks for. -/
theorem uncut_delay_not_kept :
    FrameAccepted (pacedTiming 1000000000000) threeFrames
        (transmit (pacedTiming 1000000000000) threeFrames {}).events 1 4000 4000 ∧
      FrameAccepted (pacedTiming 1000000000000) threeFrames
        (transmit (pacedTiming 1000000000000) threeFrames {}).events 2 946080009000 946080009000 ∧
      ¬ 4000 + ((2 - 1) * (1000000000000 + 2 * 1000) +
        20000 * (pausesBetween (pacedTiming 1000000000000) 1 2).card) ≤ 946080009000 := by
  refine ⟨?_, ?_, by decide +kernel⟩
  · exact .of_cut [] "aa" ["bb", "cc"] 13 9 rfl rfl (by decide +kernel)
      (by decide +kernel) (by decide +kernel) (by decide +kernel)
  · exact .of_cut ["aa"] "bb" ["cc"] 35 9 rfl rfl (by decide +kernel)
      (by decide +kernel) (by decide +kernel) (by decide +kernel)

end MeterUplink.Modem
