import SoundCard.Proofs.Ending
import SoundCard.Proofs.Listening

/-!
# The pace of a run

How fast a run plays is settled by the room in the queue. The first tick fills it, and each later
tick makes up for what the host drained before it, which is never more than was queued. So the bytes
moved after so many ticks have a closed form, and the run ends with the first tick at which they are
all that there were.
-/

set_option autoImplicit false

namespace SoundCard

/-- How many of `count` bytes were moved after some ticks, if `period` bytes are drained before each
tick from a queue of this capacity. -/
def paced (count capacity period : Nat) : (ticks : Nat) → Nat
  | 0 => 0
  | ticks + 1 => min count (capacity + ticks * min period capacity)

section

variable {count capacity period : Nat}

theorem paced_le (ticks : Nat) : paced count capacity period ticks ≤ count := by
  cases ticks with
  | zero => exact Nat.zero_le count
  | succ ticks => exact Nat.min_le_left ..

theorem paced_mono {first second : Nat} (ordered : first ≤ second) :
    paced count capacity period first ≤ paced count capacity period second := by
  cases first with
  | zero => exact Nat.zero_le _
  | succ first =>
      cases second with
      | zero => cases ordered
      | succ second =>
          have drained := Nat.mul_le_mul_right (min period capacity) (Nat.le_of_succ_le_succ ordered)
          simp only [paced]
          omega

/-- The room at the first tick is the whole queue, and at any other what was drained before it. -/
theorem paced_succ {ticks : Nat} (unfinished : paced count capacity period ticks < count) :
    paced count capacity period (ticks + 1) = paced count capacity period ticks +
      min (count - paced count capacity period ticks)
        (capacity - ((if ticks = 0 then 0 else capacity) - period)) := by
  cases ticks with
  | zero => simp [paced]
  | succ ticks =>
      simp only [paced, Nat.succ_mul, Nat.add_eq_zero_iff, Nat.succ_ne_self, and_false,
        if_false] at *
      generalize ticks * min period capacity = drained at *
      omega

end

namespace Board

namespace Serving

variable {board : Board Queues}

theorem capacity_tick {channel : Channel} (serving : board.Serving channel) :
    board.tick.2.1.voices.capacity = board.voices.capacity := by
  rw [serving.tick_eq.2, voices_takePulses]
  exact board.capacity_call channel _

/-- What is left in the queue, and the room in it, after the host drained it. -/
theorem queue_listen (serving : board.Serving .playback) (period : Nat)
    (heard : List (List UInt8)) :
    let voices := (board.withVoices (Stream.listen period heard board.voices).2).voices
    voices.playback.toList.length = board.voices.playback.toList.length - period ∧
      voices.free = board.voices.capacity - (board.voices.playback.toList.length - period) := by
  have left : (board.voices.drain period).2.playback.toList.length =
      board.voices.playback.toList.length - period := by
    simp [Queues.drain]
  have active : (board.voices.drain period).2.playbackActive = true := serving.active
  have free : (board.voices.drain period).2.free =
      board.voices.capacity - (board.voices.playback.toList.length - period) := by
    rw [Queues.free, if_pos active, Fifo.size_eq_length, left]
    rfl
  exact ⟨left, free⟩

/-- A turn of the host and a tick move all that remains, or fill the queue up again. -/
theorem round (serving : board.Serving .playback) (period : Nat) (heard : List (List UInt8)) :
    let turn := Stream.listen period heard board.voices
    let next := (board.withVoices turn.2).tick
    let left := board.voices.playback.toList.length - period
    let count := min (board.words.get .playbackRemaining).toNat (board.voices.capacity - left)
    Moved count heard.reverse.flatten board turn.1.reverse.flatten next.2.1 ∧
      next.2.1.voices.playback.toList.length = left + count := by
  intro turn next left count
  obtain ⟨listening, drained⟩ := serving.listen period heard
  obtain ⟨rest, room⟩ := serving.queue_listen period heard
  have serviced := listening.moved_tick turn.1.reverse.flatten
  have moved := drained.trans serviced
  rw [room] at serviced moved
  have lengths := congrArg List.length serviced.sound
  simp only [List.length_append, Memory.length_read, rest] at lengths
  refine ⟨?_, ?_⟩
  · rw [Nat.zero_add] at moved
    exact moved
  · exact Nat.add_left_cancel (lengths.trans (Nat.add_assoc ..))

end Serving

/-- How many bytes a run from this board has moved after some ticks. -/
def pace (start : Board Queues) (period ticks : Nat) : Nat :=
  paced (start.words.get .playbackRemaining).toNat start.voices.capacity period ticks

theorem pace_succ {start : Board Queues} {period ticks : Nat}
    (unfinished : start.pace period ticks < (start.words.get .playbackRemaining).toNat) :
    start.pace period (ticks + 1) = start.pace period ticks +
      min ((start.words.get .playbackRemaining).toNat - start.pace period ticks)
        (start.voices.capacity - ((if ticks = 0 then 0 else start.voices.capacity) - period)) :=
  paced_succ unfinished

/-- A run that started with an empty queue kept the pace for some ticks. -/
structure Paced (start : Board Queues) (period ticks : Nat) (heard : List (List UInt8))
    (board : Board Queues) : Prop where
  playing : board.Serving .playback
  called : heard.length = ticks
  moved : Moved (start.pace period ticks) [] start heard.reverse.flatten board
  capacity : board.voices.capacity = start.voices.capacity
  full : start.pace period ticks < (start.words.get .playbackRemaining).toNat →
    board.voices.playback.toList.length = if ticks = 0 then 0 else start.voices.capacity
  edges : board.lines.count .playbackDone = start.lines.count .playbackDone +
    if start.pace period ticks = (start.words.get .playbackRemaining).toNat then 1 else 0

namespace Paced

variable {start board : Board Queues} {period ticks : Nat} {heard : List (List UInt8)}

/-- Nothing was moved before the first tick. -/
theorem refl (playing : start.Serving .playback) (unqueued : start.voices.playback.toList = [])
    (unfinished : start.words.get .playbackRemaining ≠ 0) (period : Nat) :
    Paced start period 0 [] start where
  playing := playing
  called := rfl
  moved := ⟨Nat.zero_le _, rfl, (Bank.advance_zero ..).symm, (List.append_nil _).symm⟩
  capacity := rfl
  full _ := congrArg List.length unqueued
  edges := by
    have undone : start.pace period 0 ≠ (start.words.get .playbackRemaining).toNat :=
      Nat.ne_of_lt (toNat_pos_of_ne_zero unfinished)
    rw [if_neg undone, Nat.add_zero]

/-- One turn of the host and one tick keep the pace. -/
theorem tick (paced : Paced start period ticks heard board)
    (unfinished : start.pace period ticks < (start.words.get .playbackRemaining).toNat) :
    let turn := Stream.listen period heard board.voices
    let next := (board.withVoices turn.2).tick
    Paced start period (ticks + 1) turn.1 next.2.1 ∧
      (.playbackDone ∈ next.1 ↔
        start.pace period (ticks + 1) = (start.words.get .playbackRemaining).toNat) := by
  intro turn next
  have queued := paced.full unfinished
  have remaining := paced.moved.remaining
  obtain ⟨listening, _⟩ := paced.playing.listen period heard
  obtain ⟨playing, rose, counted⟩ := listening.tick
  obtain ⟨moved, length⟩ := paced.playing.round period heard
  rw [queued, paced.capacity, remaining] at moved length
  have left : board.words.get .playbackRemaining ≠ 0 := by
    intro drained
    rw [drained, UInt32.toNat_zero] at remaining
    omega
  have succ := pace_succ unfinished
  have completes : board.words.Completes next.2.1.words .playback ↔
      start.pace period (ticks + 1) = (start.words.get .playbackRemaining).toNat := by
    refine (moved.completes_iff paced.playing.enabled left).trans ?_
    omega
  refine ⟨⟨playing, congrArg (· + 1) paced.called, ?_, ?_, ?_, ?_⟩, rose.trans completes⟩
  · rw [succ]
    exact paced.moved.trans moved
  · exact listening.capacity_tick.trans paced.capacity
  · intro more
    have bounded : (if ticks = 0 then 0 else start.voices.capacity) ≤ start.voices.capacity := by
      split <;> omega
    rw [if_neg (Nat.succ_ne_zero ticks)]
    refine length.trans ?_
    omega
  · have edges := paced.edges
    rw [if_neg (Nat.ne_of_lt unfinished), Nat.add_zero] at edges
    refine counted.trans (congr (congrArg _ edges) ?_)
    exact ite_congr (propext completes) (fun _ => rfl) fun _ => rfl

end Paced

/-- How a run ends that kept the pace: with the first tick at which everything was moved, or at its
limit. -/
structure Ran (start : Board Queues) (period limit : Nat) (run : Run (List (List UInt8))) :
    Prop where
  paced : Paced start period run.ticks run.host run.board
  bounded : run.ticks ≤ limit
  earlier : ∀ ticks < run.ticks,
    start.pace period ticks < (start.words.get .playbackRemaining).toNat
  outcome : run.outcome = .interrupt ↔
    start.pace period run.ticks = (start.words.get .playbackRemaining).toNat
  timeout : run.outcome = .timeout → run.ticks = limit

section

variable {start board : Board Queues} {period ticks limit : Nat} {heard : List (List UInt8)}

theorem paced_works (start : Board Queues) (period : Nat) :
    Works .playbackDone (Stream.listen period) (fun ticks heard => Paced start period ticks heard)
      fun ticks => start.pace period ticks = (start.words.get .playbackRemaining).toNat :=
  fun _ _ _ paced undone => paced.tick (Nat.lt_of_le_of_ne (paced_le _) undone)

theorem Paced.runFrom (paced : Paced start period ticks heard board)
    (unfinished : start.pace period ticks < (start.words.get .playbackRemaining).toNat)
    (limit : Nat) (log : List Action) :
    Ran start period (ticks + limit)
      (Board.runFrom .playbackDone (Stream.listen period) limit ticks board heard log) := by
  have undone : ∀ early ≤ ticks,
      start.pace period early ≠ (start.words.get .playbackRemaining).toNat := fun early before =>
    Nat.ne_of_lt (Nat.lt_of_le_of_lt (paced_mono before) unfinished)
  have ended := (paced_works start period).runFrom limit paced undone log
  exact ⟨ended.reached, ended.bounded,
    fun early before => Nat.lt_of_le_of_ne (paced_le _) (ended.earlier early before), ended.outcome,
    ended.timeout⟩

/-- The run completes exactly if everything can be moved within its limit. -/
theorem Ran.outcome_iff {run : Run (List (List UInt8))} (ran : Ran start period limit run) :
    run.outcome = .interrupt ↔
      ∃ ticks ≤ limit, start.pace period ticks = (start.words.get .playbackRemaining).toNat := by
  have ended : Ended (fun ticks heard => Paced start period ticks heard)
      (fun ticks => start.pace period ticks = (start.words.get .playbackRemaining).toNat) limit run :=
    ⟨ran.paced, ran.bounded, fun ticks before => Nat.ne_of_lt (ran.earlier ticks before), ran.outcome,
      ran.timeout⟩
  refine ended.outcome_iff fun first second ordered all => ?_
  have later : start.pace period first ≤ start.pace period second := paced_mono ordered
  have most : start.pace period second ≤ _ := paced_le second
  omega

end

/-- A card that is armed right after power on plays at the pace of its queue: the run ends with the
interrupt after the first tick at which everything was moved, if that is within the limit, and then
or at the limit the words, the sound and the line agree on what was moved. -/
theorem playback_paced (capacity : Nat) (memory : Memory) (journal : Journal Event) (watched : Bool)
    (address count control : UInt32) (nonempty : count ≠ 0)
    (enable : control.toNat.testBit 0 = true) (limit period : Nat) :
    let start := (powerOn (Queues.closed capacity) memory journal watched).1.arm .playback address
      count control
    let run := start.run .playbackDone limit (Stream.listen period) []
    let moved := paced count.toNat capacity period
    (run.outcome = .interrupt ↔ ∃ ticks ≤ limit, moved ticks = count.toNat) ∧
      (run.outcome = .interrupt →
        moved run.ticks = count.toNat ∧ ∀ ticks < run.ticks, moved ticks ≠ count.toNat) ∧
      (run.outcome = .timeout → run.ticks = limit) ∧
      run.host.length = run.ticks ∧
      (run.board.words.get .playbackRemaining).toNat = count.toNat - moved run.ticks ∧
      run.board.words.get .playbackAddress = Memory.step address (moved run.ticks) ∧
      run.host.reverse.flatten ++ run.board.voices.playback.toList =
        memory.read address (moved run.ticks) ∧
      run.board.lines.count .playbackDone = (if run.outcome = .interrupt then 1 else 0) := by
  intro start run moved
  obtain ⟨playing, kept, quiet, unqueued, room⟩ :=
    powerOn_arm capacity memory journal watched address count enable
  obtain ⟨_, cursor, remaining⟩ : start.lines.AllLow ∧
      start.words.get .playbackAddress = address ∧ start.words.get .playbackRemaining = count :=
    arm_spec (fun line => allLow_powerOn _ _ _ _ line) .playback address count control
  have pace : start.pace period = moved := by
    funext ticks
    rw [Board.pace, remaining, room]
  have unfinished : start.words.get .playbackRemaining ≠ 0 := by
    rw [remaining]
    exact nonempty
  have more : start.pace period 0 < (start.words.get .playbackRemaining).toNat :=
    toNat_pos_of_ne_zero unfinished
  have ran : Ran start period (0 + limit) run :=
    (Paced.refl playing unqueued unfinished period).runFrom more limit []
  rw [Nat.zero_add] at ran
  have outcome := ran.outcome
  have complete := ran.outcome_iff
  have sound := ran.paced.moved.sound
  rw [pace, remaining] at outcome complete
  rw [pace, kept, cursor, unqueued, List.nil_append, List.nil_append] at sound
  refine ⟨complete, fun ended => ⟨outcome.mp ended, fun ticks before => ?_⟩, ran.timeout,
    ran.paced.called, ?_, ?_, sound, ?_⟩
  · have earlier := ran.earlier ticks before
    rw [pace, remaining] at earlier
    exact Nat.ne_of_lt earlier
  · rw [ran.paced.moved.remaining, pace, remaining]
  · rw [ran.paced.moved.words, pace, ← cursor]
    exact Bank.get_advance_address ..
  · refine ran.paced.edges.trans ?_
    rw [quiet, pace, remaining]
    exact (Nat.zero_add _).trans (ite_congr (propext outcome.symm) (fun _ => rfl) fun _ => rfl)

/-- Nine bytes through a queue for four, of which three are drained before each tick. -/
theorem playback_paced_uneven :
    let memory : Memory := (Memory.zeros 16 8).write 16 [1, 2, 3, 4, 5, 6, 7, 8]
    let start := (powerOn (Queues.closed 4) memory (.empty false) false).1.arm .playback 16 9 1
    let run := start.run .playbackDone 5 (Stream.listen 3) []
    (9 : UInt32) ≠ 0 ∧ (1 : UInt32).toNat.testBit 0 = true ∧
      (List.range 5).map (paced 9 4 3) = [0, 4, 7, 9, 9] ∧
      run.outcome = .interrupt ∧ run.ticks = 3 ∧
      run.host.reverse.flatten ++ run.board.voices.playback.toList = [1, 2, 3, 4, 5, 6, 7, 8, 0] ∧
      run.board.lines.count .playbackDone = 1 := by
  intro memory start run
  have nonempty : (9 : UInt32) ≠ 0 := by decide
  have enable : (1 : UInt32).toNat.testBit 0 = true := by decide
  have ticks : run.ticks = 3 := by decide +kernel
  obtain ⟨outcome, _, _, _, _, _, sound, edges⟩ :=
    playback_paced 4 memory (.empty false) false 16 9 1 nonempty enable 5 3
  have ended : run.outcome = .interrupt := outcome.mpr ⟨3, by decide, by decide⟩
  have heard : run.host.reverse.flatten ++ run.board.voices.playback.toList =
      memory.read 16 (paced 9 4 3 run.ticks) := sound
  rw [ticks] at heard
  exact ⟨nonempty, enable, by decide, ended, ticks, heard.trans (by decide +kernel),
    edges.trans (if_pos ended)⟩

end Board

end SoundCard
