import SoundCard.Board.Run
import SoundCard.Proofs.Queueing
import SoundCard.Proofs.Session

/-!
# How much a call moves

Queues answer in full as long as they can: a voice that is active takes bytes up to the capacity of
its queue, or gives what waits in it. So a call of the card moves as many bytes as remain, as its
budget allows and as the queue is ready for, whichever is least, and however many chunks that takes.
A call of one channel leaves the words of the other one alone, and the other voice as ready as it was.
-/

set_option autoImplicit false

namespace SoundCard

/-!
## The words of a channel
-/

/-- The words that belong to a channel. -/
def Channel.registers (channel : Channel) : List Register :=
  [channel.control, channel.address, channel.remaining]

namespace Bank

/-- The words of the channel are the same. -/
def Agree (channel : Channel) (left right : Bank) : Prop :=
  ∀ register ∈ channel.registers, left.get register = right.get register

theorem agree_iff {channel : Channel} {left right : Bank} :
    Agree channel left right ↔ left.get channel.control = right.get channel.control ∧
      left.get channel.address = right.get channel.address ∧
      left.get channel.remaining = right.get channel.remaining := by
  simp [Agree, Channel.registers]

theorem Agree.enabled {channel : Channel} {left right : Bank} (agree : Agree channel left right) :
    left.enabled channel = right.enabled channel :=
  congrArg (fun word => (ChannelControl.mk word).enable) (agree_iff.mp agree).1

theorem Agree.completes {channel : Channel} {left right left' right' : Bank}
    (before : Agree channel left right) (after : Agree channel left' right') :
    left.Completes left' channel ↔ right.Completes right' channel := by
  unfold Completes
  rw [before.enabled, (agree_iff.mp before).2.2, (agree_iff.mp after).2.2]

theorem Agree.advance {channel : Channel} {left right : Bank} (agree : Agree channel left right)
    (count : Nat) : Agree channel (left.advance channel count) (right.advance channel count) := by
  obtain ⟨_, address, remaining⟩ := agree_iff.mp agree
  intro register own
  simp only [Bank.advance, get_set, address, remaining, agree register own]

theorem get_advance_of_not_mem (bank : Bank) {channel : Channel} {register : Register} (count : Nat)
    (foreign : register ∉ channel.registers) :
    (bank.advance channel count).get register = bank.get register := by
  refine get_advance_of_ne bank count ?_ ?_ <;>
  · rintro rfl
    simp [Channel.registers] at foreign

theorem agree_advance_of_ne {channel other : Channel} (apart : other ≠ channel) (bank : Bank)
    (count : Nat) : Agree channel (bank.advance other count) bank := by
  have foreign : ∀ register ∈ channel.registers, register ∉ other.registers := by
    cases channel <;> cases other <;> first | exact absurd rfl apart | decide
  exact fun register own => get_advance_of_not_mem bank count (foreign register own)

/-- The two channels move their words independently of each other. -/
theorem advance_comm {channel other : Channel} (apart : other ≠ channel) (bank : Bank)
    (first second : Nat) :
    (bank.advance channel first).advance other second =
      (bank.advance other second).advance channel first := by
  apply ext_get
  intro register
  by_cases own : register ∈ channel.registers
  · rw [agree_advance_of_ne apart _ second register own]
    exact ((agree_advance_of_ne apart bank second).advance first register own).symm
  · rw [get_advance_of_not_mem _ first own]
    by_cases foreign : register ∈ other.registers
    · exact (agree_advance_of_ne apart.symm bank first).advance second register foreign
    · rw [get_advance_of_not_mem _ second foreign, get_advance_of_not_mem _ second foreign,
        get_advance_of_not_mem _ first own]

end Bank

/-!
## What queues answer
-/

namespace Queues

/-- How many bytes a voice can take or give right now. -/
def ready (queues : Queues) : Channel → Nat
  | .playback => queues.free
  | .capture => queues.available

theorem of_play {queues next : Queues} {bytes : List UInt8} {answer : Nat}
    (played : queues.play bytes = (answer, next)) :
    answer = min bytes.length queues.free ∧ next.free = queues.free - answer := by
  obtain ⟨rfl, rfl⟩ := Prod.mk.inj played
  refine ⟨rfl, ?_⟩
  by_cases active : queues.playbackActive = true
  · simp only [free, active, if_true, Fifo.size_eq_length, Fifo.toList_push, List.length_append,
      List.length_take]
    omega
  · simp [free, active]

theorem of_record {queues next : Queues} {room : Nat} {fill : Fill}
    (recorded : queues.record room = (fill, next)) :
    fill.answer = min room queues.available ∧ next.available = queues.available - fill.answer := by
  have answered : fill.answer = (queues.capture.take (min room queues.available)).1.length := by
    rw [← show (queues.record room).1 = fill from congrArg Prod.fst recorded]
    rfl
  have left : next = { queues with capture := (queues.capture.take (min room queues.available)).2 } :=
    congrArg Prod.snd recorded.symm
  rw [left, answered]
  by_cases active : queues.captureActive = true
  · simp only [available, active, if_true, Fifo.size_eq_length, Fifo.take_fst, Fifo.toList_take_snd,
      List.length_take, List.length_drop]
    omega
  · simp [available, active]

end Queues

/-!
## Calls
-/

namespace Device

open SoundCard.Action

/-- A playback call changes nothing of the voices but the playback queue. -/
theorem exists_playback_playChunks (memory : Memory) (queues : Queues) (address : UInt32)
    (want : Nat) :
    ∃ playback, (playChunks memory queues address want).backend = { queues with playback } := by
  fun_induction playChunks memory queues address want with
  | case1 => exact ⟨_, rfl⟩
  | case2 queues address want _ offer chunk answer next played actions taken _ =>
      obtain rfl : (queues.play chunk).2 = next := congrArg Prod.snd played
      exact ⟨_, rfl⟩
  | case3 queues address want _ offer chunk answer next played actions taken _ rest ih =>
      obtain rfl : (queues.play chunk).2 = next := congrArg Prod.snd played
      obtain ⟨playback, same⟩ := ih
      exact ⟨playback, same⟩

/-- A capture call changes nothing of the voices but the capture queue. -/
theorem exists_capture_captureChunks (memory : Memory) (queues : Queues) (staging : List UInt8)
    (address : UInt32) (want : Nat) :
    ∃ capture,
      (captureChunks memory queues staging address want).backend = { queues with capture } := by
  fun_induction captureChunks memory queues staging address want with
  | case1 => exact ⟨_, rfl⟩
  | case2 memory queues staging address want _ room fill next recorded =>
      obtain rfl : (queues.record room).2 = next := congrArg Prod.snd recorded
      exact ⟨_, rfl⟩
  | case3 memory queues staging address want _ room fill next recorded buffer call taken _ bytes
      actions rest ih =>
      obtain rfl : (queues.record room).2 = next := congrArg Prod.snd recorded
      obtain ⟨capture, same⟩ := ih
      exact ⟨capture, same⟩

theorem count_playChunks (memory : Memory) (queues : Queues) (address : UInt32) (want : Nat) :
    (playChunks memory queues address want).count = min want queues.free := by
  fun_induction playChunks memory queues address want with
  | case1 => exact (Nat.zero_min _).symm
  | case2 queues address want wanted offer chunk answer next played actions taken stalled =>
      obtain ⟨answered, _⟩ := Queues.of_play played
      have stopped : min answer offer = 0 := stalled
      have offered : chunk.length = offer := Memory.length_read ..
      have staged : 0 < offer := Nat.lt_min.mpr ⟨Nat.pos_of_ne_zero wanted, by decide⟩
      dsimp only
      omega
  | case3 queues address want _ offer chunk answer next played actions taken moving rest ih =>
      obtain ⟨answered, left⟩ := Queues.of_play played
      have took : taken = min answer offer := rfl
      have offered : chunk.length = offer := Memory.length_read ..
      have within : offer ≤ want := Nat.min_le_left ..
      dsimp only [rest]
      rw [ih, left]
      omega

theorem count_captureChunks (memory : Memory) (queues : Queues) (staging : List UInt8)
    (address : UInt32) (want : Nat) :
    (captureChunks memory queues staging address want).count = min want queues.available := by
  fun_induction captureChunks memory queues staging address want with
  | case1 => exact (Nat.zero_min _).symm
  | case2 memory queues staging address want wanted room fill next recorded buffer call taken
      stalled =>
      obtain ⟨answered, _⟩ := Queues.of_record recorded
      have stopped : min fill.answer room = 0 := stalled
      have staged : 0 < room := Nat.lt_min.mpr ⟨Nat.pos_of_ne_zero wanted, by decide⟩
      dsimp only
      omega
  | case3 memory queues staging address want _ room fill next recorded buffer call taken moving
      bytes actions rest ih =>
      obtain ⟨answered, left⟩ := Queues.of_record recorded
      have took : taken = min fill.answer room := rfl
      have within : room ≤ want := Nat.min_le_left ..
      dsimp only [rest]
      rw [ih, left]
      omega

theorem exists_playback_playbackReady (device : Device Queues) (memory : Memory) (free : Nat) :
    ∃ playback, (device.playbackReady memory free).1.backend = { device.backend with playback } := by
  unfold playbackReady
  dsimp only
  split
  · exact ⟨_, rfl⟩
  · exact exists_playback_playChunks ..

theorem exists_capture_captureReady (device : Device Queues) (memory : Memory)
    (available : Nat) :
    ∃ capture,
      (device.captureReady memory available).1.backend = { device.backend with capture } := by
  unfold captureReady
  dsimp only
  split
  · exact ⟨_, rfl⟩
  · exact exists_capture_captureChunks ..

end Device

namespace Board

open SoundCard.Action

theorem exists_playback_perform (board : Board Queues) (free : Nat) :
    ∃ playback,
      (board.perform (.playback free)).2.1.voices = { board.voices with playback } := by
  unfold voices
  rw [device_perform_playback]
  exact board.device.exists_playback_playbackReady board.memory free

theorem exists_capture_perform (board : Board Queues) (available : Nat) :
    ∃ capture,
      (board.perform (.capture available)).2.1.voices = { board.voices with capture } := by
  unfold voices
  rw [device_perform_capture]
  exact board.device.exists_capture_captureReady board.memory available

theorem capacity_call (board : Board Queues) (channel : Channel) (budget : Nat) :
    (board.perform (.call channel budget)).2.1.voices.capacity = board.voices.capacity := by
  cases channel with
  | playback =>
      obtain ⟨playback, same⟩ := board.exists_playback_perform budget
      simp only [Operation.call, same]
  | capture =>
      obtain ⟨capture, same⟩ := board.exists_capture_perform budget
      simp only [Operation.call, same]

/-- A call leaves the words of the other channel alone. -/
theorem agree_call (board : Board Queues) {channel other : Channel} (apart : other ≠ channel)
    (budget : Nat) :
    Bank.Agree channel (board.perform (.call other budget)).2.1.words board.words := by
  rw [words_call]
  exact Bank.agree_advance_of_ne apart _ _

/-- A call leaves the other voice as ready as it was. -/
theorem ready_call (board : Board Queues) {channel other : Channel} (apart : other ≠ channel)
    (budget : Nat) :
    (board.perform (.call channel budget)).2.1.voices.ready other = board.voices.ready other := by
  cases channel with
  | playback =>
      cases other with
      | playback => exact absurd rfl apart
      | capture =>
          obtain ⟨playback, same⟩ := board.exists_playback_perform budget
          simp only [Operation.call, same, Queues.ready, Queues.available]
  | capture =>
      cases other with
      | playback =>
          obtain ⟨capture, same⟩ := board.exists_capture_perform budget
          simp only [Operation.call, same, Queues.ready, Queues.free]
      | capture => exact absurd rfl apart

/-- A call moves what remains, what its budget allows, or what the queue is ready for. -/
theorem length_carried_call (board : Board Queues) (channel : Channel) (budget : Nat) :
    (carried channel (board.perform (.call channel budget)).2.2).length =
      min (min (board.words.get channel.remaining).toNat budget) (board.voices.ready channel) := by
  cases channel with
  | playback =>
      refine (board.device.length_carried_playbackReady board.memory budget).trans ?_
      exact Device.count_playChunks ..
  | capture =>
      refine (board.device.length_carried_captureReady board.memory budget).trans ?_
      exact Device.count_captureChunks ..

/-- A playback call carries the bytes of memory at the cursor. -/
theorem carried_playback_call (board : Board Queues) (free : Nat) :
    carried .playback (board.perform (.playback free)).2.2 =
      board.memory.read (board.words.get .playbackAddress)
        (min (min (board.words.get .playbackRemaining).toNat free)
          (board.voices.ready .playback)) := by
  have length := board.length_carried_call .playback free
  have bytes := board.carried_perform_playback (.playback free)
  dsimp only [Operation.call, Channel.remaining] at length bytes
  rw [bytes, length]
  rfl

/-- A capture call carries the bytes that wait longest. -/
theorem carried_capture_call (board : Board Queues) (available : Nat) :
    carried .capture (board.perform (.capture available)).2.2 =
      board.voices.capture.toList.take
        (min (min (board.words.get .captureRemaining).toNat available)
          (board.voices.ready .capture)) := by
  have length := board.length_carried_call .capture available
  have bytes := board.capture_perform (.capture available)
  dsimp only [Operation.call, Channel.remaining] at length
  rw [← length]
  unfold voices
  rw [← bytes, List.take_left]

end Board

end SoundCard
