import SoundCard.Proofs.Serving
import SoundCard.Stream

/-!
# Playing to a listener

A run on a board that serves the playback channel, while the host drains the queue before each tick.
Whatever the listener heard, followed by what is queued, grows by the bytes of memory at the cursor,
and the cursor follows. How many bytes that are depends on the period and on the limit; that the run
ends with an interrupt exactly if they were all that remained does not.
-/

set_option autoImplicit false

namespace SoundCard

namespace Board

/-- From one board to the next `count` bytes left guest memory for the listener, who had heard the
first bytes before and the second ones after. -/
structure Moved (count : Nat) (heard : List UInt8) (before : Board Queues) (heard' : List UInt8)
    (after : Board Queues) : Prop where
  bounded : count ≤ (before.words.get .playbackRemaining).toNat
  memory : after.memory = before.memory
  words : after.words = before.words.advance .playback count
  sound : heard' ++ after.voices.playback.toList =
    heard ++ before.voices.playback.toList ++
      before.memory.read (before.words.get .playbackAddress) count

namespace Moved

variable {first second : Nat} {heard heard' heard'' : List UInt8} {before middle after : Board Queues}

theorem remaining (moved : Moved first heard before heard' after) :
    (after.words.get .playbackRemaining).toNat =
      (before.words.get .playbackRemaining).toNat - first := by
  rw [moved.words]
  exact Bank.toNat_get_advance_remaining moved.bounded

/-- A board that is not done yet gets done exactly by all the bytes that remain. -/
theorem completes_iff (moved : Moved first heard before heard' after)
    (enabled : before.words.enabled .playback = true)
    (unfinished : before.words.get .playbackRemaining ≠ 0) :
    before.words.Completes after.words .playback ↔
      first = (before.words.get .playbackRemaining).toNat := by
  have bounded : first ≤ (before.words.get Channel.playback.remaining).toNat := moved.bounded
  have positive := toNat_pos_of_ne_zero unfinished
  rw [moved.words, Bank.completes_advance_iff bounded]
  exact ⟨fun complete => complete.2.2, fun all => ⟨enabled, positive, all⟩⟩

theorem trans (here : Moved first heard before heard' middle)
    (there : Moved second heard' middle heard'' after) :
    Moved (first + second) heard before heard'' after := by
  have address : middle.words.get .playbackAddress =
      Memory.step (before.words.get .playbackAddress) first := by
    rw [here.words]
    exact Bank.get_advance_address ..
  refine ⟨?_, there.memory.trans here.memory, ?_, ?_⟩
  · have rest := there.bounded
    have all := here.bounded
    rw [here.remaining] at rest
    omega
  · rw [there.words, here.words, Bank.advance_advance]
  · rw [there.sound, here.sound, here.memory, address, Memory.read_add, List.append_assoc]

/-- Taking the edges that wait moves nothing. -/
theorem takePulses (moved : Moved first heard before heard' after) :
    Moved first heard before heard' after.takePulses.2 :=
  ⟨moved.bounded, moved.memory, moved.words, moved.sound⟩

end Moved

namespace Serving

variable {board : Board Queues}

/-- The host drains what is queued. -/
theorem listen (serving : board.Serving .playback) (period : Nat) (heard : List (List UInt8)) :
    let turn := Stream.listen period heard board.voices
    (board.withVoices turn.2).Serving .playback ∧
      Moved 0 heard.reverse.flatten board turn.1.reverse.flatten (board.withVoices turn.2) := by
  refine ⟨⟨fun channel => ?_, serving.enabled, fun other apart => ?_, serving.low, serving.taken⟩,
    ⟨?_, rfl, ?_, ?_⟩⟩
  · exact (Queues.active_drain ..).trans (serving.synchronized channel)
  · cases other with
    | playback => exact absurd rfl apart
    | capture => exact serving.others .capture apart
  · exact Nat.zero_le _
  · exact (Bank.advance_zero ..).symm
  · have drained := Fifo.take_append_toList board.voices.playback period
    show (((board.voices.playback.take period).1 :: heard).reverse).flatten ++
      (board.voices.playback.take period).2.toList = _
    rw [List.reverse_cons, List.flatten_append, List.flatten_singleton, List.append_assoc,
      List.append_assoc, drained]
    exact congrArg (_ ++ ·) (List.append_nil _).symm

/-- A tick moves all that remains or fills the queue. -/
theorem moved_tick (serving : board.Serving .playback) (heard : List UInt8) :
    Moved (min (board.words.get .playbackRemaining).toNat board.voices.free) heard board heard
      board.tick.2.1 := by
  have length : (Action.carried .playback (board.perform (.playback board.voices.free)).2.2).length =
      min (board.words.get .playbackRemaining).toNat board.voices.free :=
    (board.length_carried_call .playback board.voices.free).trans
      (Nat.min_eq_left (Nat.min_le_right ..))
  have words := board.words_call .playback board.voices.free
  have memory := board.memory_perform_playback board.voices.free
  have queued := board.playback_perform (.playback board.voices.free)
  rw [board.carried_perform_playback, length] at queued
  rw [serving.tick_eq.2]
  refine Moved.takePulses ⟨Nat.min_le_left .., memory, words.trans (congrArg _ length), ?_⟩
  rw [List.append_assoc]
  exact congrArg (heard ++ ·) queued

/-- The run ends with the interrupt exactly if everything that remained was moved. -/
theorem runFrom (serving : board.Serving .playback)
    (unfinished : board.words.get .playbackRemaining ≠ 0)
    (period limit ticks : Nat) (heard : List (List UInt8)) (log : List Action) :
    let run := Board.runFrom .playbackDone (Stream.listen period) limit ticks board heard log
    ∃ count, Moved count heard.reverse.flatten board run.host.reverse.flatten run.board ∧
      (run.outcome = .interrupt ↔ count = (board.words.get .playbackRemaining).toNat) := by
  induction limit generalizing ticks board heard log with
  | zero =>
      refine ⟨0, ⟨Nat.zero_le _, rfl, (Bank.advance_zero ..).symm, (List.append_nil _).symm⟩, ?_⟩
      exact iff_of_false nofun (Nat.ne_of_lt (toNat_pos_of_ne_zero unfinished))
  | succ limit ih =>
      obtain ⟨listening, drained⟩ := serving.listen period heard
      obtain ⟨next, rose, _⟩ := listening.tick
      obtain ⟨count, moved⟩ : ∃ count, Moved count heard.reverse.flatten board _ _ :=
        ⟨_, drained.trans (listening.moved_tick _)⟩
      have complete := rose.trans (moved.completes_iff serving.enabled unfinished)
      rw [Board.runFrom]
      dsimp only
      split
      · next pulsed => exact ⟨count, moved, iff_of_true rfl (complete.mp pulsed)⟩
      · next quiet =>
        have left : count ≠ (board.words.get .playbackRemaining).toNat :=
          fun all => quiet (complete.mpr all)
        have bounded := moved.bounded
        have remaining := moved.remaining
        have more : (board.withVoices (Stream.listen period heard board.voices).2).tick.2.1.words.get
            .playbackRemaining ≠ 0 := by
          intro drained
          rw [drained, UInt32.toNat_zero] at remaining
          omega
        obtain ⟨rest, later, outcome⟩ := ih next more (ticks + 1) _ _
        refine ⟨count + rest, moved.trans later, outcome.trans ?_⟩
        rw [remaining]
        omega

end Serving

/-- A card that was armed to play right after power on serves the playback channel, with nothing
queued. -/
theorem powerOn_arm (capacity : Nat) (memory : Memory) (journal : Journal Event) (watched : Bool)
    (address count : UInt32) {control : UInt32} (enable : control.toNat.testBit 0 = true) :
    let board := (powerOn (Queues.closed capacity) memory journal watched).1.arm .playback address
      count control
    board.Serving .playback ∧ board.memory = memory ∧ board.lines = .quiet ∧
      board.voices.playback.toList = [] ∧ board.voices.capacity = capacity := by
  obtain ⟨serving, kept, quiet, unqueued, _, room⟩ :=
    powerOn_serving capacity memory journal watched .playback address count enable
  exact ⟨serving, kept, quiet, unqueued, room⟩

end Board

end SoundCard
