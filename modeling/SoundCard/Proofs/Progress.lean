import SoundCard.Proofs.Session

/-!
# The progress of a transfer

Between two writes to it, a word of a channel moves only with the bytes that go over that channel:
the cursor goes up and the count of what remains goes down by as many.
-/

set_option autoImplicit false

namespace SoundCard

namespace Bank

theorem get_write_of_ne (bank : Bank) {index : Nat} {register : Register} (value : UInt32)
    (elsewhere : index ≠ register.index) :
    (bank.write index value).get register = bank.get register := by
  unfold write
  cases found : Register.reached? index with
  | none => rfl
  | some reached =>
      obtain ⟨rfl, _⟩ := Register.reached?_eq_some_iff.mp found
      have different : register ≠ reached := fun same => elsewhere (by rw [same])
      cases reached with
      | codecControl => rw [get_set, if_neg different]
      | _ => rw [get_set, if_neg different]

theorem get_write_remaining (bank : Bank) (channel : Channel) (value : UInt32) :
    (bank.write channel.remaining.index value).get channel.remaining = value := by
  cases channel <;> exact (get_set ..).trans (if_pos rfl)

theorem get_write_address (bank : Bank) (channel : Channel) (value : UInt32) :
    (bank.write channel.address.index value).get channel.address = value := by
  cases channel <;> exact (get_set ..).trans (if_pos rfl)

theorem get_write_control (bank : Bank) (channel : Channel) (value : UInt32) :
    (bank.write channel.control.index value).get channel.control = value := by
  cases channel <;> exact (get_set ..).trans (if_pos rfl)

end Bank

namespace Turn

variable {σ : Type}

/-- The turn may give a word a new value without moving a byte. -/
def Rewrites (turn : Turn σ) (register : Register) : Prop :=
  turn.operation? = some .reset ∨ (∃ words, turn.restored? = some words) ∨
    ∃ value, turn.written? = some (register.index.val, value)

/-- The turn lets a transfer go on: it rewrites neither the cursor nor the count. -/
def Spares (turn : Turn σ) (channel : Channel) : Prop :=
  ¬turn.Rewrites channel.address ∧ ¬turn.Rewrites channel.remaining

theorem spares_of_called {turn : Turn σ} {served : Channel} (called : turn.called? = some served)
    (channel : Channel) : turn.Spares channel := by
  have kept : ∀ register, ¬turn.Rewrites register := by
    intro register
    cases turn with
    | operate operation =>
        cases operation with
        | playback | capture => rintro (done | ⟨_, done⟩ | ⟨_, done⟩) <;> cases done
        | _ => cases called
    | _ => cases called
  exact ⟨kept _, kept _⟩

end Turn

namespace Board

variable {σ : Type} [Backend σ]

theorem get_turn (board : Board σ) {turn : Turn σ} {register : Register}
    (kept : ¬turn.Rewrites register) :
    (board.turn turn).1.words.get register =
      match turn.called? with
      | none => board.words.get register
      | some channel =>
        (board.words.advance channel
          (Action.carried channel (board.turn turn).2).length).get register := by
  rw [words_turn]
  cases turn with
  | operate operation =>
      cases operation with
      | write index value =>
          refine Bank.get_write_of_ne _ value fun same => kept (.inr (.inr ⟨value, ?_⟩))
          rw [← same]
          rfl
      | busWrite offset value =>
          refine Bank.get_write_of_ne _ value fun same => kept (.inr (.inr ⟨value, ?_⟩))
          rw [← same]
          rfl
      | reset => exact absurd (.inl rfl) kept
      | load snapshot =>
          have refused : Operation.restored? (.load snapshot) = none :=
            Option.eq_none_iff_forall_ne_some.mpr fun words restored =>
              kept (.inr (.inl ⟨words, restored⟩))
          show ((Operation.restored? (.load snapshot)).getD board.words).get register = _
          rw [refused]
          rfl
      | _ => rfl
  | _ => rfl

theorem get_turn_uncalled (board : Board σ) {turn : Turn σ} {channel : Channel}
    {register : Register} (own : register = channel.address ∨ register = channel.remaining)
    (kept : ¬turn.Rewrites register) (uncalled : turn.called? ≠ some channel) :
    (board.turn turn).1.words.get register = board.words.get register := by
  rw [get_turn board kept]
  cases other : turn.called? with
  | none => rfl
  | some served =>
      have different : channel ≠ served :=
        fun same => uncalled (other.trans (congrArg some same.symm))
      refine Bank.get_advance_of_ne _ _ ?_ ?_
      · rintro rfl
        rcases own with same | same
        · exact different (Channel.address_injective same).symm
        · exact served.address_ne_remaining channel same
      · rintro rfl
        rcases own with same | same
        · exact channel.address_ne_remaining served same.symm
        · exact different (Channel.remaining_injective same).symm

theorem address_turn (board : Board σ) {turn : Turn σ} {channel : Channel}
    (kept : ¬turn.Rewrites channel.address) :
    (board.turn turn).1.words.get channel.address =
      Memory.step (board.words.get channel.address)
        (Action.carried channel (board.turn turn).2).length := by
  by_cases called : turn.called? = some channel
  · rw [get_turn board kept, called]
    exact Bank.get_advance_address ..
  · rw [board.get_turn_uncalled (.inl rfl) kept called, board.carried_turn called]
    exact (Memory.step_zero _).symm

/-- What remains of a channel goes down by the bytes that go over it. -/
theorem remaining_turn (board : Board σ) {turn : Turn σ} {channel : Channel}
    (kept : ¬turn.Rewrites channel.remaining) :
    ((board.turn turn).1.words.get channel.remaining).toNat +
        (Action.carried channel (board.turn turn).2).length =
      (board.words.get channel.remaining).toNat := by
  by_cases called : turn.called? = some channel
  · have bounded := board.length_carried_turn_le turn channel
    rw [get_turn board kept, called]
    dsimp only
    rw [Bank.toNat_get_advance_remaining bounded, Nat.sub_add_cancel bounded]
  · rw [board.get_turn_uncalled (.inr rfl) kept called, board.carried_turn called]
    rfl

theorem remaining_session (board : Board σ) {turns : List (Turn σ)} {channel : Channel}
    (spared : ∀ turn ∈ turns, turn.Spares channel) :
    ((board.session turns).1.words.get channel.remaining).toNat +
        (Action.carried channel (board.session turns).2).length =
      (board.words.get channel.remaining).toNat := by
  induction turns generalizing board with
  | nil => rfl
  | cons turn rest ih =>
      obtain ⟨sparedFirst, sparedRest⟩ := List.forall_mem_cons.mp spared
      have first := board.remaining_turn sparedFirst.2
      have others := ih (board.turn turn).1 sparedRest
      rw [session_cons, Action.carried_append, List.length_append]
      dsimp only
      omega

theorem address_session (board : Board σ) {turns : List (Turn σ)} {channel : Channel}
    (spared : ∀ turn ∈ turns, turn.Spares channel) :
    (board.session turns).1.words.get channel.address =
      Memory.step (board.words.get channel.address)
        (Action.carried channel (board.session turns).2).length := by
  induction turns generalizing board with
  | nil => exact (Memory.step_zero _).symm
  | cons turn rest ih =>
      obtain ⟨sparedFirst, sparedRest⟩ := List.forall_mem_cons.mp spared
      have first := board.address_turn sparedFirst.1
      have others := ih (board.turn turn).1 sparedRest
      rw [session_cons, Action.carried_append, List.length_append, ← Memory.step_step, ← first]
      exact others

end Board

end SoundCard
