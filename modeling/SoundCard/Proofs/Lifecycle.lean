import SoundCard.Proofs.Progress
import SoundCard.Proofs.Snapshot
import SoundCard.Proofs.Voices

/-!
# The life of a card

From power on, whatever is done to the card, its voices follow its control words and its lines are
low. Its words alone do not keep the request bit and the reserved word clear, for a snapshot may come
from anywhere. They do as long as every restored snapshot was saved by a card that lived the same
way, which makes the lives of all cards one induction.
-/

set_option autoImplicit false

namespace SoundCard

namespace Bank

/-- No codec request is left in the words, and nothing reached the reserved one. -/
structure Tidy (bank : Bank) : Prop where
  answered : (bank.get .codecControl).toNat.testBit 0 = false
  unreached : bank.get .reserved = 0

theorem tidy_zero : zero.Tidy := by
  constructor
  · rw [get_zero]
    rfl
  · exact get_zero .reserved

theorem Tidy.write {bank : Bank} (tidy : bank.Tidy) (index : Nat) (value : UInt32) :
    (bank.write index value).Tidy := by
  constructor
  · by_cases command : index = 0
    · subst command
      have stored : (bank.write 0 value).get .codecControl = (CodecControl.mk value).settled :=
        (get_set ..).trans (if_pos rfl)
      rw [stored, CodecControl.testBit_settled]
      rfl
    · have elsewhere : index ≠ Register.codecControl.index.val := command
      rw [get_write_of_ne bank value elsewhere]
      exact tidy.answered
  · by_cases hidden : index = 7
    · subst hidden
      exact tidy.unreached
    · have elsewhere : index ≠ Register.reserved.index.val := hidden
      rw [get_write_of_ne bank value elsewhere]
      exact tidy.unreached

theorem Tidy.advance {bank : Bank} (tidy : bank.Tidy) (channel : Channel) (count : Nat) :
    (bank.advance channel count).Tidy := by
  have kept : ∀ register, (∀ served : Channel, register ≠ served.address) →
      (∀ served : Channel, register ≠ served.remaining) →
      (bank.advance channel count).get register = bank.get register :=
    fun register notAddress notRemaining =>
      get_advance_of_ne bank count (notAddress channel) (notRemaining channel)
  constructor
  · rw [kept .codecControl (fun served => by cases served <;> exact nofun)
      (fun served => by cases served <;> exact nofun)]
    exact tidy.answered
  · rw [kept .reserved (fun served => by cases served <;> exact nofun)
      (fun served => by cases served <;> exact nofun)]
    exact tidy.unreached

end Bank

/-- What the host does in the turn leaves the voices switched as they are. -/
def Turn.LeavesVoices (turn : Turn Queues) : Prop :=
  ∀ change, turn = .host change →
    ∀ queues channel, (change queues).active channel = queues.active channel

namespace Turn

theorem leavesVoices_feed (bytes : List UInt8) : LeavesVoices (.host (·.feed bytes)) := by
  rintro change same queues channel
  cases same
  exact queues.active_feed bytes channel

theorem leavesVoices_drain (most : Nat) :
    LeavesVoices (.host fun queues => (queues.drain most).2) := by
  rintro change same queues channel
  cases same
  exact queues.active_drain most channel

end Turn

namespace Board

section

variable {σ : Type} [Backend σ]

theorem tidy_turn {board : Board σ} (tidy : board.words.Tidy) {turn : Turn σ}
    (unrestored : turn.restored? = none) : (board.turn turn).1.words.Tidy := by
  rw [words_turn]
  cases turn with
  | operate operation =>
      cases operation with
      | write index value => exact tidy.write index value
      | busWrite offset value => exact tidy.write (Device.position offset) value
      | reset => exact Bank.tidy_zero
      | playback | capture => exact tidy.advance ..
      | load snapshot =>
          show ((Operation.restored? (.load snapshot)).getD board.words).Tidy
          rw [show Operation.restored? (.load snapshot) = none from unrestored]
          exact tidy
      | _ => exact tidy
  | _ => exact tidy

end

theorem synchronized_turn {board : Board Queues} (synchronized : board.device.Synchronized)
    {turn : Turn Queues} (left : turn.LeavesVoices) :
    (board.turn turn).1.device.Synchronized := by
  cases turn with
  | operate operation => exact synchronized_perform synchronized operation
  | host change =>
      intro channel
      exact (left change rfl board.device.backend channel).trans (synchronized channel)
  | _ => exact synchronized

theorem synchronized_session {board : Board Queues} (synchronized : board.device.Synchronized)
    {turns : List (Turn Queues)} (left : ∀ turn ∈ turns, turn.LeavesVoices) :
    (board.session turns).1.device.Synchronized := by
  induction turns generalizing board with
  | nil => exact synchronized
  | cons turn rest ih =>
      obtain ⟨leftFirst, leftRest⟩ := List.forall_mem_cons.mp left
      exact ih (synchronized_turn synchronized leftFirst) leftRest

/-- The boards that come from power on, where only snapshots of such boards are restored. -/
inductive Lived : Board Queues → Prop where
  | powerOn (capacity : Nat) (memory : Memory) (journal : Journal Event) (watched : Bool) :
      Lived (powerOn (.closed capacity) memory journal watched).1
  | turn {board : Board Queues} {turn : Turn Queues} (lived : Lived board)
      (left : turn.LeavesVoices) (unrestored : turn.restored? = none) :
      Lived (board.turn turn).1
  | restore {board source : Board Queues} (lived : Lived board) (saved : Lived source) :
      Lived (board.turn (.operate (.load source.device.save))).1

theorem Lived.tidy {board : Board Queues} (lived : Lived board) : board.words.Tidy := by
  induction lived with
  | powerOn capacity memory journal watched =>
      rw [words, words_powerOn]
      exact Bank.tidy_zero
  | turn _ _ unrestored ih => exact tidy_turn ih unrestored
  | @restore board source _ _ _ saved =>
      have restored : (Turn.operate (.load source.device.save) : Turn Queues).restored? =
          some source.words := congrArg Except.toOption (Snapshot.restore_save source.device)
      rw [words_of_restored board restored]
      exact saved

theorem Lived.session {board : Board Queues} (lived : Lived board) {turns : List (Turn Queues)}
    (left : ∀ turn ∈ turns, turn.LeavesVoices)
    (saved : ∀ snapshot, .operate (.load snapshot) ∈ turns →
      (∃ words, Snapshot.restore snapshot = .ok words) →
        ∃ source, Lived source ∧ snapshot = source.device.save) :
    Lived (board.session turns).1 := by
  induction turns generalizing board with
  | nil => exact lived
  | cons turn rest ih =>
      obtain ⟨leftFirst, leftRest⟩ := List.forall_mem_cons.mp left
      -- A turn either restores nothing or it loads what another such board saved.
      have next : Lived (board.turn turn).1 := by
        cases found : turn.restored? with
        | none => exact .turn lived leftFirst found
        | some restored =>
            cases turn with
            | operate operation =>
                cases operation with
                | load snapshot =>
                    have accepted : ∃ words, Snapshot.restore snapshot = .ok words := by
                      cases result : Snapshot.restore snapshot with
                      | ok words => exact ⟨words, rfl⟩
                      | error refusal =>
                          have refused := congrArg Except.toOption result
                          cases refused.symm.trans found
                    obtain ⟨source, savedLived, rfl⟩ := saved snapshot List.mem_cons_self accepted
                    exact .restore lived savedLived
                | _ => cases found
            | _ => cases found
      exact ih next leftRest fun snapshot member =>
        saved snapshot (List.mem_cons_of_mem _ member)

/-- After any session from power on, each voice is active exactly if its control word says so, and
all lines are low. If every restored snapshot was saved by a card with a life like this, no codec
request reads back and the reserved word is zero. -/
theorem lifecycle_invariant (capacity : Nat) (memory : Memory) (journal : Journal Event)
    (watched : Bool) (turns : List (Turn Queues)) (left : ∀ turn ∈ turns, turn.LeavesVoices) :
    let now := ((powerOn (Queues.closed capacity) memory journal watched).1.session turns).1
    (∀ channel, now.device.backend.active channel =
        (now.words.get channel.control).toNat.testBit 0) ∧
      (∀ line, now.lines.level line = false) ∧
      ((∀ snapshot, .operate (.load snapshot) ∈ turns →
          (∃ words, Snapshot.restore snapshot = .ok words) →
            ∃ source, Lived source ∧ snapshot = source.device.save) →
        (now.words.get .codecControl).toNat.testBit 0 = false ∧ now.words.get .reserved = 0) := by
  refine ⟨?_, ?_, ?_⟩
  · exact synchronized_session (synchronized_powerOn capacity memory journal watched) left
  · exact allLow_session (allLow_powerOn (Queues.closed capacity) memory journal watched) turns
  · intro saved
    obtain ⟨answered, unreached⟩ :=
      ((Lived.powerOn capacity memory journal watched).session left saved).tidy
    exact ⟨answered, unreached⟩

/-- A card that is restored from another one, which had its capture channel enabled. -/
theorem lifecycle_invariant_restored :
    let fresh : Board Queues := (powerOn (.closed 4) (.zeros 0 8) (.empty false) false).1
    let other := (fresh.turn (.operate (.write 8 1))).1
    let turns : List (Turn Queues) :=
      [.operate (.write 0 3), .host (·.feed [5]), .operate (.load other.device.save)]
    let now := (fresh.session turns).1
    (∀ turn ∈ turns, turn.LeavesVoices) ∧
      (∀ snapshot, .operate (.load snapshot) ∈ turns →
        (∃ words, Snapshot.restore snapshot = .ok words) →
          ∃ source, Lived source ∧ snapshot = source.device.save) ∧
      now.device.backend.active .capture = true ∧ now.words.get .reserved = 0 := by
  intro fresh other turns now
  have lived : Lived fresh := .powerOn ..
  have otherLived : Lived (fresh.turn (.operate (.write 8 1))).1 := .turn lived nofun rfl
  have left : ∀ turn ∈ turns, turn.LeavesVoices := by
    intro turn member
    obtain rfl | rfl | rfl : turn = .operate (.write 0 3) ∨ turn = .host (·.feed [5]) ∨
        turn = .operate (.load other.device.save) := by
      simpa [turns] using member
    · exact nofun
    · exact Turn.leavesVoices_feed [5]
    · exact nofun
  have saved : ∀ snapshot, .operate (.load snapshot) ∈ turns →
      (∃ words, Snapshot.restore snapshot = .ok words) →
        ∃ source, Lived source ∧ snapshot = source.device.save := by
    intro snapshot member _
    have same : snapshot = other.device.save := by simpa [turns] using member
    exact ⟨other, otherLived, same⟩
  obtain ⟨voices, _, tidy⟩ :=
    lifecycle_invariant 4 (.zeros 0 8) (.empty false) false turns left
  exact ⟨left, saved, (voices .capture).trans (by decide +kernel), (tidy saved).2⟩

end Board

end SoundCard
