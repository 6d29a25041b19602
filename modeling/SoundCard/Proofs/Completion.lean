import SoundCard.Proofs.Progress
import SoundCard.Voice.Queues

/-!
# Interrupts are accounted for

Every edge on a line of the card has its cause in the turn that raises it, and every such cause
raises its edge: a codec command that is announced, or a call that ran an enabled channel out of
bytes. Bytes only remain again after a write or a snapshot says so, which separates any two
completions of a channel.
-/

set_option autoImplicit false

namespace SoundCard

theorem Line.length_eq_counts (lines : List Line) :
    lines.length = lines.count .codecRequest + lines.count .codecReply +
      lines.count .playbackDone + lines.count .captureDone := by
  induction lines with
  | nil => rfl
  | cons line rest ih =>
      rw [List.length_cons, ih]
      cases line <;> simp <;> omega

namespace Turn

variable {σ : Type}

/-- What a turn must do for an edge on a line, told by the words around it. -/
def Announces (turn : Turn σ) (before after : Bank) : Line → Prop
  | .codecRequest => ∃ value, turn.written? = some (0, value) ∧
      value.toNat.testBit 0 = true ∧ value.toNat.testBit 1 = true
  | .codecReply => ∃ value, turn.written? = some (0, value) ∧
      value.toNat.testBit 0 = true ∧ value.toNat.testBit 1 = false
  | .playbackDone => turn.called? = some .playback ∧ before.Completes after .playback
  | .captureDone => turn.called? = some .capture ∧ before.Completes after .capture

/-- The turn makes bytes of a channel remain, by a write or by a snapshot. -/
def Rearms (turn : Turn σ) (channel : Channel) : Prop :=
  (∃ value, turn.written? = some (channel.remaining.index.val, value) ∧ value ≠ 0) ∨
    ∃ words, turn.restored? = some words ∧ words.get channel.remaining ≠ 0

theorem announces_line {turn : Turn σ} {before after : Bank} {channel : Channel} :
    turn.Announces before after channel.line ↔
      turn.called? = some channel ∧ before.Completes after channel := by
  cases channel <;> rfl

private theorem mem_announced {value : UInt32} {line : Line} :
    line ∈ (CodecControl.mk value).announced ↔
      value.toNat.testBit 0 = true ∧
        line = if value.toNat.testBit 1 then .codecRequest else .codecReply := by
  unfold CodecControl.announced
  split
  · next requested =>
      rw [List.mem_singleton]
      exact ⟨fun same => ⟨requested, same⟩, And.right⟩
  · next unrequested =>
      exact ⟨fun member => absurd member List.not_mem_nil, fun both => absurd both.1 unrequested⟩

private theorem announces_of_written {turn : Turn σ} {before after : Bank} {index : Nat}
    {value : UInt32} (written : turn.written? = some (index, value)) (uncalled : turn.called? = none)
    (line : Line) :
    turn.Announces before after line ↔
      line ∈ if index = 0 then (CodecControl.mk value).announced else [] := by
  by_cases first : index = 0
  · subst first
    rw [if_pos rfl, mem_announced]
    cases line <;> cases bit : value.toNat.testBit 1 <;> simp [Announces, written, uncalled, bit]
  · rw [if_neg first]
    cases line <;> simp [Announces, written, uncalled, first]

private theorem announces_of_called {turn : Turn σ} {before after : Bank} {channel : Channel}
    (unwritten : turn.written? = none) (called : turn.called? = some channel) (line : Line) :
    turn.Announces before after line ↔
      line ∈ if before.Completes after channel then [channel.line] else [] := by
  have unannounced : ∀ value, turn.written? ≠ some (0, value) := by
    intro value
    rw [unwritten]
    exact nofun
  by_cases complete : before.Completes after channel
  · rw [if_pos complete, List.mem_singleton]
    cases channel <;> cases line <;> simp [Announces, Channel.line, unannounced, called, complete]
  · rw [if_neg complete]
    cases channel <;> cases line <;> simp [Announces, unannounced, called, complete]

private theorem not_announces {turn : Turn σ} {before after : Bank}
    (unwritten : turn.written? = none) (uncalled : turn.called? = none) (line : Line) :
    ¬turn.Announces before after line := by
  cases line <;> simp [Announces, unwritten, uncalled]

theorem mem_edges {turn : Turn σ} {before after : Bank} {line : Line} :
    line ∈ turn.edges before after ↔ turn.Announces before after line := by
  cases turn with
  | operate operation =>
      cases operation with
      | write | busWrite => exact (announces_of_written rfl rfl line).symm
      | playback | capture => exact (announces_of_called rfl rfl line).symm
      | _ => exact iff_of_false List.not_mem_nil (not_announces rfl rfl line)
  | _ => exact iff_of_false List.not_mem_nil (not_announces rfl rfl line)

theorem length_edges_le (turn : Turn σ) (before after : Bank) :
    (turn.edges before after).length ≤ 1 := by
  have announced : ∀ control : CodecControl, control.announced.length ≤ 1 := by
    intro control
    unfold CodecControl.announced
    split
    · exact Nat.le_refl 1
    · exact Nat.zero_le 1
  cases turn with
  | operate operation =>
      cases operation with
      | write | busWrite =>
          show (if _ then _ else []).length ≤ 1
          split
          · exact announced _
          · exact Nat.zero_le 1
      | playback | capture =>
          show (if _ then [_] else []).length ≤ 1
          split <;> decide
      | _ => exact Nat.zero_le 1
  | _ => exact Nat.zero_le 1

theorem count_edges (turn : Turn σ) (before after : Bank) (line : Line) :
    (turn.Announces before after line ∧ (turn.edges before after).count line = 1) ∨
      (¬turn.Announces before after line ∧ (turn.edges before after).count line = 0) := by
  have single := turn.length_edges_le before after
  have bounded := List.count_le_length (a := line) (l := turn.edges before after)
  rw [← mem_edges, ← List.count_pos_iff]
  omega

end Turn

namespace Board

variable {σ : Type} [Backend σ]

def Raises (board : Board σ) (turn : Turn σ) (line : Line) : Prop :=
  (board.turn turn).1.lines.count line = board.lines.count line + 1

instance (board : Board σ) (turn : Turn σ) (line : Line) : Decidable (board.Raises turn line) :=
  inferInstanceAs (Decidable (_ = _))

/-- One turn on low lines adds one edge to each line that it has a cause for, and none to others. -/
theorem count_turn {board : Board σ} (low : board.lines.AllLow) (turn : Turn σ) (line : Line) :
    (turn.Announces board.words (board.turn turn).1.words line ∧ board.Raises turn line) ∨
      (¬turn.Announces board.words (board.turn turn).1.words line ∧
        (board.turn turn).1.lines.count line = board.lines.count line) := by
  have counted := (lines_turn low turn).2 line
  rcases turn.count_edges board.words (board.turn turn).1.words line with
    ⟨announced, one⟩ | ⟨silent, zero⟩
  · exact .inl ⟨announced, counted.trans (congrArg (_ + ·) one)⟩
  · exact .inr ⟨silent, counted.trans (congrArg (_ + ·) zero)⟩

theorem announces_of_raises {board : Board σ} (low : board.lines.AllLow) {turn : Turn σ}
    {line : Line} (raised : board.Raises turn line) :
    turn.Announces board.words (board.turn turn).1.words line := by
  rcases count_turn low turn line with ⟨announced, _⟩ | ⟨_, same⟩
  · exact announced
  · have impossible := same.symm.trans raised
    omega

theorem total_turn_le {board : Board σ} (low : board.lines.AllLow) (turn : Turn σ) :
    (board.turn turn).1.lines.total ≤ board.lines.total + 1 := by
  have counted := (lines_turn low turn).2
  have single := turn.length_edges_le board.words (board.turn turn).1.words
  have counts := Line.length_eq_counts (turn.edges board.words (board.turn turn).1.words)
  have request := counted .codecRequest
  have reply := counted .codecReply
  have played := counted .playbackDone
  have filled := counted .captureDone
  unfold Recorder.total
  omega

/-- Bytes do not remain again by themselves. -/
theorem rearms_of_turn {board : Board σ} {turn : Turn σ} {channel : Channel}
    (drained : board.words.get channel.remaining = 0)
    (refilled : (board.turn turn).1.words.get channel.remaining ≠ 0) : turn.Rearms channel := by
  by_cases rewritten : turn.Rewrites channel.remaining
  · rcases rewritten with isReset | ⟨restored, found⟩ | ⟨value, written⟩
    · rw [words_turn, isReset] at refilled
      exact absurd (Bank.get_zero _) refilled
    · rw [words_of_restored board found] at refilled
      exact .inr ⟨restored, found, refilled⟩
    · rw [words_of_written board written, Bank.get_write_remaining] at refilled
      exact .inl ⟨value, written, refilled⟩
  · have moved := board.remaining_turn rewritten
    rw [drained] at moved
    refine absurd (UInt32.toNat_inj.mp ?_) refilled
    rw [UInt32.toNat_zero] at moved ⊢
    omega

theorem exists_rearms {board : Board σ} {turns : List (Turn σ)} {channel : Channel}
    (drained : board.words.get channel.remaining = 0)
    (refilled : (board.session turns).1.words.get channel.remaining ≠ 0) :
    ∃ turn ∈ turns, turn.Rearms channel := by
  induction turns generalizing board with
  | nil => exact absurd drained refilled
  | cons turn rest ih =>
      by_cases still : (board.turn turn).1.words.get channel.remaining = 0
      · obtain ⟨later, member, rearmed⟩ := ih still refilled
        exact ⟨later, List.mem_cons_of_mem _ member, rearmed⟩
      · exact ⟨turn, List.mem_cons_self, rearms_of_turn drained still⟩

/-- In every session from low lines each turn raises at most one edge, and it raises one on a line
exactly if it has the cause for it. Between two completions of a channel the channel is rearmed. -/
theorem edges_accounted (start : Board σ) (low : start.lines.AllLow) :
    (∀ (turns : List (Turn σ)) (turn : Turn σ),
      let before := (start.session turns).1
      let after := (before.turn turn).1
      after.lines.total ≤ before.lines.total + 1 ∧
        ∀ line,
          (turn.Announces before.words after.words line ∧ before.Raises turn line) ∨
            (¬turn.Announces before.words after.words line ∧
              after.lines.count line = before.lines.count line)) ∧
      ∀ (channel : Channel) (past between : List (Turn σ)) (first second : Turn σ),
        (start.session past).1.Raises first channel.line →
        (start.session (past ++ first :: between)).1.Raises second channel.line →
        ∃ turn ∈ between, turn.Rearms channel := by
  constructor
  · intro turns turn
    have quiet := allLow_session low turns
    exact ⟨total_turn_le quiet turn, count_turn quiet turn⟩
  · intro channel past between first second one another
    have completed := Turn.announces_line.mp (announces_of_raises (allLow_session low past) one)
    have again := Turn.announces_line.mp
      (announces_of_raises (allLow_session low (past ++ first :: between)) another)
    rw [session_append] at again
    obtain ⟨_, _, _, drained⟩ := completed
    obtain ⟨_, _, refilled, _⟩ := again
    exact exists_rearms drained refilled

/-- Two transfers in a row, with the write between them that arms the second. -/
theorem edges_accounted_twice :
    let start : Board Queues := (powerOn (.closed 8) (.zeros 0 16) (.empty false) false).1
    let armed : List (Turn Queues) := [.operate (.write 6 2), .operate (.write 4 1)]
    let call : Turn Queues := .operate (.playback 5)
    start.lines.AllLow ∧
      (start.session armed).1.Raises call .playbackDone ∧
      (start.session (armed ++ [call, .operate (.write 6 3)])).1.Raises call .playbackDone ∧
      ∃ turn ∈ [(.operate (.write 6 3) : Turn Queues)], turn.Rearms .playback := by
  intro start armed call
  have low : start.lines.AllLow := allLow_powerOn _ _ _ _
  have first : (start.session armed).1.Raises call .playbackDone := by decide +kernel
  have second : (start.session (armed ++ [call, .operate (.write 6 3)])).1.Raises call
      .playbackDone := by decide +kernel
  exact ⟨low, first, second, (edges_accounted start low).2 .playback armed _ call call first second⟩

end Board

end SoundCard
