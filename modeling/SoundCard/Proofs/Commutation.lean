import SoundCard.Proofs.Completion
import SoundCard.Proofs.Exchange

/-!
# The order of two calls

A call of one channel and a call of the other one share the memory, the words and the interrupt
controller. A playback call reads ahead in chunks, but all that it reads or hands on lies within what
remains and what its budget allows, and a capture call stores within the same bounds. So if these
two ranges share no address, neither call sees that the other one came first, and the order of the
calls can be told only from the order of the edges that are waiting.
-/

set_option autoImplicit false

namespace SoundCard

/-- No address is within reach of both a playback call and a capture call with these budgets. -/
def Bank.Disjoint (bank : Bank) (free available : Nat) : Prop :=
  ∀ first < min (bank.get .playbackRemaining).toNat free,
    ∀ second < min (bank.get .captureRemaining).toNat available,
      Memory.step (bank.get .playbackAddress) first ≠ Memory.step (bank.get .captureAddress) second

instance (bank : Bank) (free available : Nat) : Decidable (bank.Disjoint free available) :=
  inferInstanceAs (Decidable (∀ first < _, ∀ second < _, _ ≠ _))

namespace Board

open SoundCard.Action

/-- The boards agree on words, memory, queues and lines. The same edges wait, maybe in another order. -/
structure Reordered (left right : Board Queues) : Prop where
  words : left.words = right.words
  memory : left.memory = right.memory
  queued : ∀ channel, (left.voices.fifo channel).toList = (right.voices.fifo channel).toList
  levels : ∀ line, left.lines.level line = right.lines.level line
  counts : ∀ line, left.lines.count line = right.lines.count line
  pending : left.lines.pending.Perm right.lines.pending

/-- A call carries the same bytes, whether or not a call of the other channel came before it. -/
def Unseen (board : Board Queues) (other : Channel) (earlier : Nat) (channel : Channel)
    (budget : Nat) : Prop :=
  carried channel ((board.perform (.call other earlier)).2.1.perform (.call channel budget)).2.2 =
    carried channel (board.perform (.call channel budget)).2.2

/-- A call is not seen by a later one of the other channel if it stored nothing within its reach. -/
theorem unseen_of_unstored (board : Board Queues) {channel other : Channel}
    (apart : other ≠ channel) {budget earlier : Nat}
    (unstored : ∀ distance < min (board.words.get channel.remaining).toNat budget,
      (board.perform (.call other earlier)).2.1.memory.byteAt
          (Memory.step (board.words.get channel.address) distance) =
        board.memory.byteAt (Memory.step (board.words.get channel.address) distance)) :
    board.Unseen other earlier channel budget := by
  obtain ⟨_, address, remaining⟩ := Bank.agree_iff.mp (board.agree_call apart earlier)
  have ready := board.ready_call apart.symm earlier
  have queue := congrArg Fifo.toList
    (board.fifo_perform (Operation.called?_call_ne apart earlier))
  unfold Unseen
  generalize (board.perform (.call other earlier)).2.1 = next at *
  cases channel with
  | playback =>
      have cursor : next.words.get .playbackAddress = board.words.get .playbackAddress := address
      have left : next.words.get .playbackRemaining = board.words.get .playbackRemaining := remaining
      refine (next.carried_playback_call budget).trans ?_
      rw [cursor, left, ready]
      refine (Memory.read_congr fun distance inside => ?_).trans
        (board.carried_playback_call budget).symm
      exact unstored distance (Nat.lt_of_lt_of_le inside (Nat.min_le_left ..))
  | capture =>
      have left : next.words.get .captureRemaining = board.words.get .captureRemaining := remaining
      refine (next.carried_capture_call budget).trans ?_
      rw [left, ready]
      refine Eq.trans ?_ (board.carried_capture_call budget).symm
      exact congrArg (List.take _) queue

/-!
## Two calls
-/

def moved (board : Board Queues) (channel : Channel) (budget : Nat) : Nat :=
  (carried channel (board.perform (.call channel budget)).2.2).length

/-- The edge that a call raises on low lines, if any. -/
def raised (board : Board Queues) (channel : Channel) (budget : Nat) : List Line :=
  if board.words.Completes (board.perform (.call channel budget)).2.1.words channel
    then [channel.line] else []

/-- The board after a call of one channel and then one of the other. -/
def afterCalls (board : Board Queues) (other : Channel) (earlier : Nat) (channel : Channel)
    (budget : Nat) : Board Queues :=
  ((board.perform (.call other earlier)).2.1.perform (.call channel budget)).2.1

section

variable {board : Board Queues} {channel other : Channel} {budget earlier : Nat}

theorem words_afterCalls
    (unseen : board.Unseen other earlier channel budget) :
    (board.afterCalls other earlier channel budget).words =
      (board.perform (.call other earlier)).2.1.words.advance channel
        (board.moved channel budget) := by
  refine (words_call _ channel budget).trans ?_
  rw [unseen]
  rfl

theorem lines_afterCalls (low : board.lines.AllLow) (apart : other ≠ channel)
    (unseen : board.Unseen other earlier channel budget) :
    (board.afterCalls other earlier channel budget).lines =
      (board.lines.note (board.raised other earlier)).note (board.raised channel budget) := by
  have first : (board.perform (.call other earlier)).2.1.lines =
      board.lines.note (board.raised other earlier) := lines_call low other earlier
  have still : (board.perform (.call other earlier)).2.1.lines.AllLow := by
    rw [first]
    exact low.note _
  have before := board.agree_call apart earlier
  have after : Bank.Agree channel (board.afterCalls other earlier channel budget).words
      (board.perform (.call channel budget)).2.1.words := by
    rw [words_afterCalls unseen, board.words_call channel budget]
    exact before.advance _
  refine (lines_call still channel budget).trans ?_
  rw [first]
  exact congrArg _ (ite_congr (propext (before.completes after)) (fun _ => rfl) fun _ => rfl)

/-- What a call leaves in the queue of its channel is told by what was queued and what it carried. -/
theorem queued_call {left right : Board Queues}
    (queued : (left.voices.fifo channel).toList = (right.voices.fifo channel).toList)
    (same : carried channel (left.perform (.call channel budget)).2.2 =
      carried channel (right.perform (.call channel budget)).2.2) :
    ((left.perform (.call channel budget)).2.1.voices.fifo channel).toList =
      ((right.perform (.call channel budget)).2.1.voices.fifo channel).toList := by
  cases channel with
  | playback =>
      simp only [voices, Queues.fifo] at queued ⊢
      rw [playback_perform, playback_perform, same, queued]
  | capture =>
      have here := left.capture_perform (.call .capture budget)
      have there := right.capture_perform (.call .capture budget)
      simp only [voices, Queues.fifo] at queued ⊢
      rw [queued, ← there, same] at here
      exact List.append_cancel_left here

theorem queued_afterCalls (apart : other ≠ channel)
    (unseen : board.Unseen other earlier channel budget) :
    ((board.afterCalls other earlier channel budget).voices.fifo channel).toList =
      ((board.afterCalls channel budget other earlier).voices.fifo channel).toList := by
  have kept : ∀ board : Board Queues,
      ((board.perform (.call other earlier)).2.1.voices.fifo channel).toList =
        (board.voices.fifo channel).toList := by
    intro board
    exact congrArg Fifo.toList (board.fifo_perform (Operation.called?_call_ne apart earlier))
  exact (queued_call (kept board) unseen).trans (kept _).symm

end

theorem unseen_capture {board : Board Queues} {free available : Nat}
    (disjoint : board.words.Disjoint free available) :
    board.Unseen .capture available .playback free := by
  have apart : Channel.capture ≠ .playback := nofun
  have length := board.length_carried_call .capture available
  refine board.unseen_of_unstored apart fun first inside => ?_
  rw [memory_perform]
  refine Memory.byteAt_write_apart fun second stored => ?_
  refine disjoint first inside second (Nat.lt_of_lt_of_le stored ?_)
  exact Nat.le_trans (Nat.le_of_eq length) (Nat.min_le_left ..)

theorem unseen_playback (board : Board Queues) (free available : Nat) :
    board.Unseen .playback free .capture available := by
  have apart : Channel.playback ≠ .capture := nofun
  refine board.unseen_of_unstored apart fun distance _ => ?_
  rw [memory_perform_playback]

theorem memory_afterCalls {board : Board Queues} {free available : Nat}
    (unseen : board.Unseen .playback free .capture available) :
    (board.afterCalls .playback free .capture available).memory =
      (board.afterCalls .capture available .playback free).memory := by
  have apart : Channel.playback ≠ .capture := nofun
  have address : (board.perform (.call .playback free)).2.1.device.registers.get .captureAddress =
      board.device.registers.get .captureAddress :=
    (Bank.agree_iff.mp (board.agree_call apart free)).2.1
  unfold afterCalls
  rw [memory_perform_playback, memory_perform, unseen, memory_perform_playback, memory_perform,
    address]

/-- If no address is within reach of both, a playback call and a capture call leave the same,
whichever comes first. -/
theorem calls_commute (board : Board Queues) (low : board.lines.AllLow) (free available : Nat)
    (disjoint : board.words.Disjoint free available) :
    Reordered ((board.playback free).1.capture available).1
      ((board.capture available).1.playback free).1 := by
  have apart : Channel.capture ≠ .playback := nofun
  have captured := board.unseen_playback free available
  have played := unseen_capture disjoint
  have lines := lines_afterCalls low apart.symm captured
  have lines' := lines_afterCalls low apart played
  have here : ((board.playback free).1.capture available).1 =
      board.afterCalls .playback free .capture available := rfl
  have there : ((board.capture available).1.playback free).1 =
      board.afterCalls .capture available .playback free := rfl
  rw [here, there]
  constructor
  case words =>
    rw [words_afterCalls captured, words_afterCalls played, words_call, words_call]
    exact Bank.advance_comm apart ..
  case memory => exact memory_afterCalls captured
  case queued =>
    intro channel
    cases channel with
    | playback => exact (queued_afterCalls apart played).symm
    | capture => exact queued_afterCalls apart.symm captured
  case levels =>
    intro line
    simp only [lines, lines', Recorder.level, Recorder.note]
  case counts =>
    intro line
    simp only [lines, lines', Recorder.count_note]
    exact Nat.add_right_comm ..
  case pending =>
    simp only [lines, lines', Recorder.note, List.append_assoc]
    exact List.perm_append_comm.append_left _

/-- Three bytes to play and two to capture behind them. The edges wait in the order of the calls. -/
theorem calls_commute_finishing :
    let board := ((powerOn (Queues.closed 4) (.zeros 0 8) (.empty false) false).1.session
      [.operate (.write 6 3), .operate (.write 4 1), .operate (.write 9 3), .operate (.write 10 2),
        .operate (.write 8 1), .host (·.feed [7, 8, 9])]).1
    let here := ((board.playback 4).1.capture 4).1
    let there := ((board.capture 4).1.playback 4).1
    board.lines.AllLow ∧ board.words.Disjoint 4 4 ∧ Reordered here there ∧
      here.lines.pending = [.playbackDone, .captureDone] ∧
      there.lines.pending = [.captureDone, .playbackDone] := by
  intro board here there
  have low : board.lines.AllLow := allLow_session (allLow_powerOn _ _ _ _) _
  have disjoint : board.words.Disjoint 4 4 := by decide +kernel
  exact ⟨low, disjoint, calls_commute board low 4 4 disjoint, by decide +kernel, by decide +kernel⟩

end Board

end SoundCard
