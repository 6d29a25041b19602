import SoundCard.Board.Run
import SoundCard.Proofs.Exchange
import SoundCard.Proofs.Lifecycle
import SoundCard.Proofs.Transfer

/-!
# One channel at work

A tick owes a call to each channel whose voice is active. A call that finds nothing to move leaves the
board as it is, so a tick comes down to one call as long as only one voice is ready for anything. Such a
board comes from arming a channel right after power on.
-/

set_option autoImplicit false

namespace SoundCard

theorem Queues.ready_eq_zero {queues : Queues} {channel : Channel}
    (silent : queues.active channel = false) : queues.ready channel = 0 := by
  have inactive := ne_true_of_eq_false silent
  cases channel <;> exact if_neg inactive

namespace Board

section

variable (board : Board Queues)

@[simp] theorem words_takePulses : board.takePulses.2.words = board.words := rfl

@[simp] theorem voices_takePulses : board.takePulses.2.voices = board.voices := rfl

@[simp] theorem memory_takePulses : board.takePulses.2.memory = board.memory := rfl

@[simp] theorem count_takePulses (line : Line) :
    board.takePulses.2.lines.count line = board.lines.count line := rfl

/-!
## Ticks as calls
-/

/-- A call that finds nothing remaining or has no budget leaves the board as it is. -/
theorem perform_call_idle {channel : Channel} {budget : Nat}
    (idle : min (board.words.get channel.remaining).toNat budget = 0) :
    (board.perform (.call channel budget)).2.1 = board := by
  rw [board.perform_call_nothing idle]

/-- The board after a call of the channel for all that its voice is ready for. -/
def served (channel : Channel) : Board Queues :=
  (board.perform (.call channel (board.voices.ready channel))).2.1

theorem served_of_unready {channel : Channel} (unready : board.voices.ready channel = 0) :
    board.served channel = board := by
  refine perform_call_idle board ?_
  rw [unready, Nat.min_zero]

theorem servePlayback_eq_served : board.servePlayback.1 = board.served .playback := by
  by_cases active : board.voices.playbackActive = true
  · exact congrArg Prod.fst (if_pos active)
  · have unready : board.voices.ready .playback = 0 := if_neg active
    rw [board.served_of_unready unready]
    exact congrArg Prod.fst (if_neg active)

theorem serveCapture_eq_served : board.serveCapture.1 = board.served .capture := by
  by_cases active : board.voices.captureActive = true
  · exact congrArg Prod.fst (if_pos active)
  · have unready : board.voices.ready .capture = 0 := if_neg active
    rw [board.served_of_unready unready]
    exact congrArg Prod.fst (if_neg active)

/-- A tick calls both channels for what their voices are ready for, and takes the edges that wait
then. -/
theorem tick_eq_served :
    board.tick.1 = ((board.served .playback).served .capture).lines.pending ∧
      board.tick.2.1 = ((board.served .playback).served .capture).takePulses.2 := by
  rw [← servePlayback_eq_served, ← serveCapture_eq_served]
  exact ⟨rfl, rfl⟩

end

/-- No other voice is ready for anything while this channel is enabled, and no edge waits to be
taken. -/
structure Serving (board : Board Queues) (channel : Channel) : Prop where
  synchronized : board.device.Synchronized
  enabled : board.words.enabled channel = true
  others : ∀ other, other ≠ channel → board.voices.ready other = 0
  low : board.lines.AllLow
  taken : board.lines.pending = []

namespace Serving

variable {board : Board Queues} {channel : Channel}

theorem active (serving : board.Serving channel) : board.voices.active channel = true :=
  (serving.synchronized channel).trans serving.enabled

theorem tick_eq (serving : board.Serving channel) :
    board.tick.1 = (board.served channel).lines.pending ∧
      board.tick.2.1 = (board.served channel).takePulses.2 := by
  have both : (board.served .playback).served .capture = board.served channel := by
    cases channel with
    | playback =>
        have kept : (board.served .playback).voices.ready .capture = board.voices.ready .capture :=
          board.ready_call (by decide) _
        exact served_of_unready _ (kept.trans (serving.others .capture (by decide)))
    | capture => rw [board.served_of_unready (serving.others .playback (by decide))]
  rw [← both]
  exact board.tick_eq_served

/-- A tick of a board that serves one channel raises the line of that channel exactly if its call
completes the transfer. -/
theorem tick (serving : board.Serving channel) :
    board.tick.2.1.Serving channel ∧
      (channel.line ∈ board.tick.1 ↔ board.words.Completes board.tick.2.1.words channel) ∧
      board.tick.2.1.lines.count channel.line = board.lines.count channel.line +
        if board.words.Completes board.tick.2.1.words channel then 1 else 0 := by
  have lines : (board.served channel).lines = board.lines.note
      (if board.words.Completes (board.served channel).words channel then [channel.line] else []) :=
    lines_call serving.low channel _
  have words : (board.served channel).words = board.words.advance channel _ :=
    board.words_call channel _
  rw [serving.tick_eq.1, serving.tick_eq.2, words_takePulses, count_takePulses, lines]
  refine ⟨⟨?_, ?_, fun other apart => ?_, ?_, rfl⟩, ?_, ?_⟩
  · exact synchronized_perform serving.synchronized _
  · rw [words_takePulses, words, Bank.enabled_advance]
    exact serving.enabled
  · exact (board.ready_call apart _).trans (serving.others other apart)
  · show (board.served channel).lines.AllLow
    rw [lines]
    exact serving.low.note _
  · simp only [Recorder.note, serving.taken, List.nil_append]
    split
    · next complete => exact iff_of_true (List.mem_singleton.mpr rfl) complete
    · next incomplete => exact iff_of_false List.not_mem_nil incomplete
  · rw [Recorder.count_note]
    split
    · rw [List.count_singleton_self]
    · rfl

end Serving

/-- Nothing is queued for either voice, and no edge waits to be taken. -/
structure Rested (board : Board Queues) : Prop where
  synchronized : board.device.Synchronized
  low : board.lines.AllLow
  taken : board.lines.pending = []
  playback : board.voices.playback.toList = []
  capture : board.voices.capture.toList = []

namespace Rested

variable {board : Board Queues}

theorem unready (rested : board.Rested) : board.voices.ready .capture = 0 := by
  show (if board.voices.captureActive then board.voices.capture.size else 0) = 0
  rw [Fifo.size_eq_length, rested.capture, List.length_nil, ite_self]

/-- A voice with nothing to give does not get in the way of playback. -/
theorem serving (rested : board.Rested) (enabled : board.words.enabled .playback = true) :
    board.Serving .playback := by
  refine ⟨rested.synchronized, enabled, fun other apart => ?_, rested.low, rested.taken⟩
  cases other with
  | playback => exact absurd rfl apart
  | capture => exact rested.unready

/-- A tick has nothing to do while playback is not enabled or has nothing left. -/
theorem tick_idle (rested : board.Rested)
    (idle : board.words.enabled .playback = true → board.words.get .playbackRemaining = 0) :
    board.tick.1 = [] ∧ board.tick.2.1.Rested ∧ board.tick.2.1.words = board.words := by
  have playback : board.served .playback = board := by
    refine board.perform_call_idle ?_
    by_cases enabled : board.words.enabled .playback = true
    · have drained : board.words.get Channel.playback.remaining = 0 := idle enabled
      rw [drained, UInt32.toNat_zero, Nat.zero_min]
    · have silent : board.voices.active .playback = false :=
        (rested.synchronized .playback).trans (eq_false_of_ne_true enabled)
      rw [Queues.ready_eq_zero silent, Nat.min_zero]
  have capture : board.served .capture = board := board.served_of_unready rested.unready
  rw [board.tick_eq_served.1, board.tick_eq_served.2, playback, capture]
  exact ⟨rested.taken, ⟨rested.synchronized, rested.low, rfl, rested.playback, rested.capture⟩, rfl⟩

end Rested

end Board

/-!
## Arming
-/

/-- A write changes nothing of the voices but whether they are active. -/
theorem Device.exists_active_write (device : Device Queues) (index : Nat) (value : UInt32) :
    ∃ playbackActive captureActive, (device.write index value).1.backend =
      { device.backend with playbackActive, captureActive } := by
  unfold write
  cases Register.reached? index with
  | none => exact ⟨_, _, rfl⟩
  | some register => cases register <;> exact ⟨_, _, rfl⟩

namespace Board

/-- What a write to a word other than the first one leaves alone. -/
theorem turn_write {board : Board Queues} (low : board.lines.AllLow) {index : Nat}
    (later : index ≠ 0) (value : UInt32) :
    let after := (board.turn (.operate (.write index value))).1
    after.lines = board.lines ∧ after.memory = board.memory ∧
      ∃ playbackActive captureActive,
        after.voices = { board.voices with playbackActive, captureActive } := by
  have lines := board.lines_perform low (.write index value)
  have edges : (Operation.write index value).edges board.device.registers
      (board.perform (.write index value)).2.1.device.registers = [] := if_neg later
  rw [edges, Recorder.note_nil] at lines
  obtain ⟨playbackActive, captureActive, written⟩ := board.device.exists_active_write index value
  have device : (board.turn (.operate (.write index value))).1.device =
      (board.device.write index value).1 := board.device_operate _
  refine ⟨lines, board.memory_operate _, playbackActive, captureActive, ?_⟩
  unfold voices
  rw [device, written]

/-- What arming a channel leaves alone. -/
theorem arm_frame {start : Board Queues} (low : start.lines.AllLow) (channel : Channel)
    (address count control : UInt32) :
    let armed := start.arm channel address count control
    armed.lines = start.lines ∧ armed.memory = start.memory ∧
      ∃ playbackActive captureActive,
        armed.voices = { start.voices with playbackActive, captureActive } := by
  have later : channel.address.index.val ≠ 0 ∧ channel.remaining.index.val ≠ 0 ∧
      channel.control.index.val ≠ 0 := by
    cases channel <;> decide
  obtain ⟨lines, memory, _, _, voices⟩ := turn_write low later.1 address
  have low' := low
  rw [← lines] at low'
  obtain ⟨lines', memory', _, _, voices'⟩ := turn_write low' later.2.1 count
  have low'' := low'
  rw [← lines'] at low''
  obtain ⟨lines'', memory'', playbackActive, captureActive, voices''⟩ :=
    turn_write low'' later.2.2 control
  rw [voices', voices] at voices''
  exact ⟨lines''.trans (lines'.trans lines), memory''.trans (memory'.trans memory), playbackActive,
    captureActive, voices''⟩

theorem enabled_arm (start : Board Queues) (channel : Channel) (address count control : UInt32) :
    (start.arm channel address count control).words.enabled channel = control.toNat.testBit 0 ∧
      ∀ other, other ≠ channel →
        (start.arm channel address count control).words.enabled other =
          start.words.enabled other := by
  unfold Bank.enabled Bank.control
  rw [words_arm]
  refine ⟨?_, fun other apart => ?_⟩
  · rw [Bank.get_write_control]
    rfl
  · have kept : ∀ (bank : Bank) (register : Register) (value : UInt32),
        other.control ≠ register →
        (bank.write register.index value).get other.control = bank.get other.control := by
      intro bank register value different
      exact Bank.get_write_of_ne bank value
        fun same => different (Register.index_injective (Fin.ext same)).symm
    have control : other.control ≠ channel.control := by
      cases channel <;> cases other <;> first | exact absurd rfl apart | decide
    rw [kept _ _ _ control, kept _ _ _ (other.control_ne_remaining channel),
      kept _ _ _ (other.control_ne_address channel)]

theorem synchronized_arm {start : Board Queues} (synchronized : start.device.Synchronized)
    (channel : Channel) (address count control : UInt32) :
    (start.arm channel address count control).device.Synchronized := by
  refine synchronized_session synchronized fun turn member => ?_
  rcases List.mem_cons.mp member with rfl | member
  · exact nofun
  · rcases List.mem_cons.mp member with rfl | member
    · exact nofun
    · obtain rfl := List.mem_singleton.mp member
      exact nofun

theorem serving_arm {start : Board Queues} (synchronized : start.device.Synchronized)
    (low : start.lines.AllLow) (taken : start.lines.pending = []) {channel : Channel}
    (idle : ∀ other, other ≠ channel → start.words.enabled other = false)
    (address count : UInt32) {control : UInt32} (enable : control.toNat.testBit 0 = true) :
    (start.arm channel address count control).Serving channel := by
  obtain ⟨enabled, kept⟩ := start.enabled_arm channel address count control
  obtain ⟨lines, _, _⟩ := arm_frame low channel address count control
  have armed := synchronized_arm synchronized channel address count control
  refine ⟨armed, enabled.trans enable, fun other apart => ?_, ?_, ?_⟩
  · exact Queues.ready_eq_zero
      ((armed other).trans ((kept other apart).trans (idle other apart)))
  · rw [lines]
    exact low
  · rw [lines]
    exact taken

theorem powerOn_spec (capacity : Nat) (memory : Memory) (journal : Journal Event)
    (watched : Bool) :
    let board := (powerOn (Queues.closed capacity) memory journal watched).1
    board.device.Synchronized ∧ board.lines = .quiet ∧ board.memory = memory ∧
      board.words = .zero ∧
        ∃ card format, board.voices = { Queues.closed capacity with card, format } := by
  refine ⟨synchronized_powerOn _ _ _ _, lines_powerOn .., memory_carryOut .., words_powerOn ..,
    some cardName, some .voice, ?_⟩
  unfold voices
  rw [powerOn, device_carryOut]
  rfl

theorem rested_powerOn (capacity : Nat) (memory : Memory) (journal : Journal Event)
    (watched : Bool) : (powerOn (Queues.closed capacity) memory journal watched).1.Rested := by
  obtain ⟨synchronized, quiet, _, _, _, _, closed⟩ := powerOn_spec capacity memory journal watched
  refine ⟨synchronized, allLow_powerOn _ _ _ _, congrArg Recorder.pending quiet, ?_, ?_⟩
  · rw [closed]
    rfl
  · rw [closed]
    rfl

theorem Rested.arm {start : Board Queues} (rested : start.Rested) (channel : Channel)
    (address count control : UInt32) : (start.arm channel address count control).Rested := by
  obtain ⟨lines, _, _, _, voices⟩ := arm_frame rested.low channel address count control
  refine ⟨synchronized_arm rested.synchronized channel address count control, ?_, ?_, ?_, ?_⟩
  · rw [lines]
    exact rested.low
  · rw [lines]
    exact rested.taken
  · rw [voices]
    exact rested.playback
  · rw [voices]
    exact rested.capture

/-- A card of which one channel was armed right after power on serves that channel, with nothing
queued. -/
theorem powerOn_serving (capacity : Nat) (memory : Memory) (journal : Journal Event)
    (watched : Bool) (channel : Channel) (address count : UInt32) {control : UInt32}
    (enable : control.toNat.testBit 0 = true) :
    let board := (powerOn (Queues.closed capacity) memory journal watched).1.arm channel address
      count control
    board.Serving channel ∧ board.memory = memory ∧ board.lines = .quiet ∧
      board.voices.playback.toList = [] ∧ board.voices.capture.toList = [] ∧
        board.voices.capacity = capacity := by
  obtain ⟨synchronized, quiet, same, zero, _, _, closed⟩ :=
    powerOn_spec capacity memory journal watched
  have low := allLow_powerOn (Queues.closed capacity) memory journal watched
  have taken := congrArg Recorder.pending quiet
  have idle : ∀ other, other ≠ channel → _ = false := fun other _ =>
    (congrArg (Bank.enabled · other) zero).trans (Bank.enabled_zero other)
  obtain ⟨lines, kept, _, _, voices⟩ := arm_frame low channel address count control
  rw [closed] at voices
  refine ⟨serving_arm synchronized low taken idle address count enable, kept.trans same,
    lines.trans quiet, ?_⟩
  rw [voices]
  exact ⟨rfl, rfl, rfl⟩

end Board

end SoundCard
