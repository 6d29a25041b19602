import SoundCard.Proofs.Effects

/-!
# Sessions

A session is a finite history of a board: operations of the card in any order, and between them what
the owners of the other parts do, that is, the host stores to memory and works on the backend, and the
interrupt controller takes the recorded edges. A turn that is no operation reaches neither the words
nor the lines.
-/

set_option autoImplicit false

namespace SoundCard

inductive Turn (σ : Type) where
  | operate (operation : Operation)
  /-- The host stores bytes to guest memory. -/
  | store (address : UInt32) (bytes : List UInt8)
  /-- The host does something to the backend, such as draining a queue. -/
  | host (change : σ → σ)
  | takePulses

namespace Turn

variable {σ : Type}

def operation? : Turn σ → Option Operation
  | .operate operation => some operation
  | _ => none

def written? (turn : Turn σ) : Option (Nat × UInt32) :=
  turn.operation?.bind Operation.written?

def called? (turn : Turn σ) : Option Channel :=
  turn.operation?.bind Operation.called?

def restored? (turn : Turn σ) : Option Bank :=
  turn.operation?.bind Operation.restored?

/-- The edges that the turn raises on low lines, told by the words before and after it. -/
def edges (turn : Turn σ) (before after : Bank) : List Line :=
  match turn.operation? with
  | none => []
  | some operation => operation.edges before after

end Turn

namespace Board

variable {σ : Type}

def words (board : Board σ) : Bank :=
  board.device.registers

variable [Backend σ]

def turn (board : Board σ) : Turn σ → Board σ × List Action
  | .operate operation => (board.perform operation).2
  | .store address bytes => ({ board with memory := board.memory.write address bytes }, [])
  | .host change =>
    ({ board with device := { board.device with backend := change board.device.backend } }, [])
  | .takePulses => (board.takePulses.2, [])

/-- Takes turns one after the other. Gives what the card did in all of them, in order. -/
def session (board : Board σ) : List (Turn σ) → Board σ × List Action
  | [] => (board, [])
  | turn :: rest =>
    let (board, actions) := board.turn turn
    let (board, later) := board.session rest
    (board, actions ++ later)

theorem session_cons (board : Board σ) (turn : Turn σ) (rest : List (Turn σ)) :
    board.session (turn :: rest) =
      (((board.turn turn).1.session rest).1,
        (board.turn turn).2 ++ ((board.turn turn).1.session rest).2) := rfl

theorem session_append (board : Board σ) (first second : List (Turn σ)) :
    board.session (first ++ second) =
      (((board.session first).1.session second).1,
        (board.session first).2 ++ ((board.session first).1.session second).2) := by
  induction first generalizing board with
  | nil => rfl
  | cons turn rest ih => simp only [List.cons_append, session_cons, ih, List.append_assoc]

theorem carried_turn (board : Board σ) {turn : Turn σ} {channel : Channel}
    (uncalled : turn.called? ≠ some channel) :
    Action.carried channel (board.turn turn).2 = [] := by
  cases turn with
  | operate operation => exact board.carried_perform uncalled
  | _ => rfl

theorem carried_turn_playback (board : Board σ) (turn : Turn σ) :
    let bytes := Action.carried .playback (board.turn turn).2
    bytes = board.memory.read (board.words.get .playbackAddress) bytes.length := by
  cases turn with
  | operate operation => exact board.carried_perform_playback operation
  | _ => rfl

theorem length_carried_turn_le (board : Board σ) (turn : Turn σ) (channel : Channel) :
    (Action.carried channel (board.turn turn).2).length ≤
      (board.words.get channel.remaining).toNat := by
  cases turn with
  | operate operation => exact board.length_carried_perform_le operation channel
  | _ => exact Nat.zero_le _

/-- The words after a turn, told by the bytes that it moves. -/
theorem words_turn (board : Board σ) (turn : Turn σ) :
    (board.turn turn).1.words =
      match turn.operation? with
      | none => board.words
      | some operation =>
        operation.words board.words fun channel => Action.carried channel (board.turn turn).2 := by
  cases turn with
  | operate operation => exact board.words_perform operation
  | _ => rfl

theorem words_call (board : Board σ) (channel : Channel) (budget : Nat) :
    (board.perform (.call channel budget)).2.1.words = board.words.advance channel
      (Action.carried channel (board.perform (.call channel budget)).2.2).length := by
  refine (board.words_perform (.call channel budget)).trans ?_
  rw [Operation.words_call]
  rfl

/-- A call without anything to move has no effect but a remark. -/
theorem perform_call_nothing (board : Board σ) {channel : Channel} {budget : Nat}
    (nothing : min (board.words.get channel.remaining).toNat budget = 0) :
    board.perform (.call channel budget) = (.done, board,
      [.notice (.called channel budget (board.words.get channel.remaining))]) := by
  cases channel with
  | playback =>
      have called : board.device.playbackReady board.memory budget = _ := if_pos nothing
      rw [Operation.call, perform, playback, operate, called]
      rfl
  | capture =>
      have called : board.device.captureReady board.memory budget = _ := if_pos nothing
      rw [Operation.call, perform, capture, called]
      rfl

theorem lines_call {board : Board σ} (low : board.lines.AllLow) (channel : Channel)
    (budget : Nat) :
    (board.perform (.call channel budget)).2.1.lines = board.lines.note
      (if board.words.Completes (board.perform (.call channel budget)).2.1.words channel
        then [channel.line] else []) := by
  refine (board.lines_perform low (.call channel budget)).trans ?_
  rw [Operation.edges_call]
  rfl

theorem words_of_written (board : Board σ) {turn : Turn σ} {index : Nat} {value : UInt32}
    (written : turn.written? = some (index, value)) :
    (board.turn turn).1.words = board.words.write index value := by
  rw [words_turn]
  cases turn with
  | operate operation => cases operation <;> cases written <;> rfl
  | _ => cases written

theorem words_of_restored (board : Board σ) {turn : Turn σ} {restored : Bank}
    (found : turn.restored? = some restored) : (board.turn turn).1.words = restored := by
  rw [words_turn]
  cases turn with
  | operate operation =>
      cases operation with
      | load snapshot => exact congrArg (Option.getD · board.words) found
      | _ => cases found
  | _ => cases found

/-- A turn raises edges only by an operation, and leaves low lines low. -/
theorem lines_turn {board : Board σ} (low : board.lines.AllLow) (turn : Turn σ) :
    (board.turn turn).1.lines.AllLow ∧
      ∀ line, (board.turn turn).1.lines.count line =
        board.lines.count line + (turn.edges board.words (board.turn turn).1.words).count line := by
  cases turn with
  | operate operation =>
      have lines : (board.turn (.operate operation)).1.lines = _ := board.lines_perform low operation
      rw [lines]
      exact ⟨low.note _, fun line => Recorder.count_note ..⟩
  | _ => exact ⟨low, fun line => rfl⟩

theorem allLow_session {board : Board σ} (low : board.lines.AllLow) (turns : List (Turn σ)) :
    (board.session turns).1.lines.AllLow := by
  induction turns generalizing board with
  | nil => exact low
  | cons turn rest ih => exact ih (lines_turn low turn).1

end Board

end SoundCard
