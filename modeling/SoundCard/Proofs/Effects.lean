import SoundCard.Board.Operation
import SoundCard.Proofs.Streaming

/-!
# What an operation does

For every operation on a board: the words after it, the edges that it raises, the bytes that it moves
and the memory that it leaves. All of them are functions of the operation, of the words before it and
of the bytes that the backend took or gave, so that later arguments need not look into an operation
again.
-/

set_option autoImplicit false

namespace SoundCard

def Bank.write (bank : Bank) (index : Nat) (value : UInt32) : Bank :=
  match Register.reached? index with
  | none => bank
  | some .codecControl => bank.set .codecControl (CodecControl.mk value).settled
  | some register => bank.set register value

def CodecControl.announced (control : CodecControl) : List Line :=
  if control.requestEnable then [control.line] else []

namespace Operation

def written? : Operation → Option (Nat × UInt32)
  | .write index value => some (index, value)
  | .busWrite offset value => some (Device.position offset, value)
  | _ => none

def called? : Operation → Option Channel
  | .playback _ => some .playback
  | .capture _ => some .capture
  | _ => none

/-- The call of a channel whose backend has room or supply for `budget` bytes. -/
def call (channel : Channel) (budget : Nat) : Operation :=
  match channel with
  | .playback => .playback budget
  | .capture => .capture budget

/-- The words that a snapshot brings back, if the operation restores one that is not refused. -/
def restored? : Operation → Option Bank
  | .load snapshot => (Snapshot.restore snapshot).toOption
  | _ => none

/-- The words after the operation, told by the bytes that it moves. -/
def words (operation : Operation) (before : Bank) (carried : Channel → List UInt8) : Bank :=
  match operation with
  | .reset => .zero
  | .write index value => before.write index value
  | .busWrite offset value => before.write (Device.position offset) value
  | .load snapshot => (restored? (.load snapshot)).getD before
  | .playback _ => before.advance .playback (carried .playback).length
  | .capture _ => before.advance .capture (carried .capture).length
  | .busRead _ | .read _ | .updateVoices | .save => before

/-- The edges that the operation raises on low lines, told by the words before and after it. -/
def edges (operation : Operation) (before after : Bank) : List Line :=
  match operation with
  | .write index value => if index = 0 then (CodecControl.mk value).announced else []
  | .busWrite offset value =>
    if Device.position offset = 0 then (CodecControl.mk value).announced else []
  | .playback _ => if before.Completes after .playback then [.playbackDone] else []
  | .capture _ => if before.Completes after .capture then [.captureDone] else []
  | _ => []

@[simp] theorem called?_call (channel : Channel) (budget : Nat) :
    (call channel budget).called? = some channel := by
  cases channel <;> rfl

theorem called?_call_ne {channel other : Channel} (apart : other ≠ channel) (budget : Nat) :
    (call other budget).called? ≠ some channel := by
  rw [called?_call]
  exact fun same => apart (Option.some.inj same)

@[simp] theorem words_call (channel : Channel) (budget : Nat) (before : Bank)
    (carried : Channel → List UInt8) :
    (call channel budget).words before carried =
      before.advance channel (carried channel).length := by
  cases channel <;> rfl

@[simp] theorem edges_call (channel : Channel) (budget : Nat) (before after : Bank) :
    (call channel budget).edges before after =
      if before.Completes after channel then [channel.line] else [] := by
  cases channel <;> rfl

end Operation

namespace Device

open SoundCard.Action

variable {σ : Type}

theorem silent_unknownAccess (access : Access) (index : Nat) :
    Silent (unknownAccess access index) :=
  ⟨fun channel => by cases channel <;> rfl, rfl⟩

theorem silent_read (device : Device σ) (index : Nat) : Silent (device.read index).2 := by
  unfold read
  split
  · exact silent_unknownAccess .read index
  · exact ⟨fun channel => by cases channel <;> rfl, rfl⟩

variable [Backend σ]

theorem silent_switch (device : Device σ) (channel : Channel) (active : Bool) :
    Silent (device.switch channel active).2 := by
  have switched : Silent [.switched channel active] :=
    ⟨fun other => by cases other <;> rfl, rfl⟩
  exact switched.append (silent_notices (Backend.setActive device.backend channel active).2)

theorem silent_updateVoices (device : Device σ) : Silent device.updateVoices.2 :=
  (device.silent_switch .playback _).append (silent_switch _ .capture _)

theorem silent_reset (device : Device σ) : Silent device.reset.2 :=
  (silent_switch _ .capture false).append (silent_switch _ .playback false)

theorem registers_updateVoices (device : Device σ) :
    device.updateVoices.1.registers = device.registers := rfl

theorem registers_reset (device : Device σ) : device.reset.1.registers = .zero := rfl

theorem registers_write (device : Device σ) (index : Nat) (value : UInt32) :
    (device.write index value).1.registers = device.registers.write index value := by
  unfold write Bank.write
  cases Register.reached? index with
  | none => rfl
  | some register => cases register <;> rfl

theorem carried_store (device : Device σ) (register : Register) (value : UInt32)
    (channel : Channel) : carried channel (device.store register value).2 = [] := by
  cases register with
  | codecControl =>
      unfold store
      dsimp only
      split
      · exact carried_pulse channel _
      · rfl
  | playbackControl | captureControl => exact (silent_updateVoices _).1 channel
  | _ => rfl

theorem driven_store (device : Device σ) (register : Register) (value : UInt32) :
    driven (device.store register value).2 =
      pulses (if register = .codecControl then (CodecControl.mk value).announced else []) := by
  cases register with
  | codecControl =>
      unfold store CodecControl.announced
      dsimp only
      split <;> rfl
  | playbackControl | captureControl => exact (silent_updateVoices _).2
  | _ => rfl

theorem carried_write (device : Device σ) (index : Nat) (value : UInt32) (channel : Channel) :
    carried channel (device.write index value).2 = [] := by
  unfold write
  cases Register.reached? index with
  | none => exact (silent_unknownAccess .write index).1 channel
  | some register =>
      dsimp only
      rw [carried_cons, carried_cons, carried_store]
      cases channel <;> rfl

/-- A write raises an edge only at position 0. -/
theorem driven_write (device : Device σ) (index : Nat) (value : UInt32) :
    driven (device.write index value).2 =
      pulses (if index = 0 then (CodecControl.mk value).announced else []) := by
  unfold write
  cases found : Register.reached? index with
  | none =>
      have elsewhere : index ≠ 0 := by
        rintro rfl
        cases found
      rw [if_neg elsewhere]
      exact (silent_unknownAccess .write index).2
  | some register =>
      obtain ⟨rfl, _⟩ := Register.reached?_eq_some_iff.mp found
      have first : register.index.val = 0 ↔ register = .codecControl := by
        cases register <;> decide
      refine (driven_store device register value).trans ?_
      simp only [first]

end Device

namespace Board

open SoundCard.Action

variable {σ : Type}

theorem device_operate (board : Board σ) (operation : Device σ → Device σ × List Action) :
    (board.operate operation).1.device = (operation board.device).1 :=
  device_carryOut ..

theorem memory_operate (board : Board σ) (operation : Device σ → Device σ × List Action) :
    (board.operate operation).1.memory = board.memory :=
  memory_carryOut ..

variable [Backend σ]

theorem words_powerOn (backend : σ) (memory : Memory) (journal : Journal Event) (watched : Bool) :
    (powerOn backend memory journal watched).1.device.registers = .zero :=
  congrArg Device.registers (device_carryOut ..)

theorem lines_powerOn (backend : σ) (memory : Memory) (journal : Journal Event) (watched : Bool) :
    (powerOn backend memory journal watched).1.lines = .quiet := by
  refine (lines_carryOut ..).trans ?_
  rw [driven_cons, driven_notices]
  rfl

theorem allLow_powerOn (backend : σ) (memory : Memory) (journal : Journal Event) (watched : Bool) :
    (powerOn backend memory journal watched).1.lines.AllLow := by
  rw [lines_powerOn]
  exact Recorder.allLow_quiet

theorem perform_load_refused (board : Board σ) {snapshot : List UInt8}
    {refusal : Snapshot.Refusal} (refused : Snapshot.restore snapshot = .error refusal) :
    board.perform (.load snapshot) = (.refused refusal, board, []) := by
  simp only [perform, load, Device.load, refused]
  rfl

theorem perform_load_restored (board : Board σ) {snapshot : List UInt8} {registers : Bank}
    (restored : Snapshot.restore snapshot = .ok registers) :
    board.perform (.load snapshot) =
      (.done, board.operate fun device => { device with registers : Device σ }.updateVoices) := by
  simp only [perform, load, Device.load, restored]
  rfl

theorem device_perform_playback (board : Board σ) (free : Nat) :
    (board.perform (.playback free)).2.1.device =
      (board.device.playbackReady board.memory free).1 :=
  board.device_operate _

theorem device_perform_capture (board : Board σ) (available : Nat) :
    (board.perform (.capture available)).2.1.device =
      (board.device.captureReady board.memory available).1 :=
  device_carryOut ..

theorem carried_perform (board : Board σ) {operation : Operation} {channel : Channel}
    (uncalled : operation.called? ≠ some channel) :
    carried channel (board.perform operation).2.2 = [] := by
  cases operation with
  | busRead offset => exact (board.device.silent_read (Device.position offset)).1 channel
  | read index => exact (board.device.silent_read index).1 channel
  | busWrite offset value =>
      exact board.device.carried_write (Device.position offset) value channel
  | write index value => exact board.device.carried_write index value channel
  | updateVoices => exact board.device.silent_updateVoices.1 channel
  | reset => exact board.device.silent_reset.1 channel
  | save => rfl
  | load snapshot =>
      cases found : Snapshot.restore snapshot with
      | error refusal => rw [perform_load_refused board found]; rfl
      | ok registers =>
          rw [perform_load_restored board found]
          exact (Device.silent_updateVoices _).1 channel
  | playback free =>
      exact (board.device.playbackReady_call board.memory free).others channel
        fun same => uncalled (congrArg some same.symm)
  | capture available =>
      exact (board.device.captureReady_call board.memory available).others channel
        fun same => uncalled (congrArg some same.symm)

theorem words_perform (board : Board σ) (operation : Operation) :
    (board.perform operation).2.1.device.registers =
      operation.words board.device.registers
        fun channel => carried channel (board.perform operation).2.2 := by
  cases operation with
  | busRead offset => exact congrArg Device.registers (device_carryOut ..)
  | read index => exact congrArg Device.registers (device_carryOut ..)
  | busWrite offset value =>
      exact (congrArg Device.registers (board.device_operate _)).trans
        (board.device.registers_write (Device.position offset) value)
  | write index value =>
      exact (congrArg Device.registers (board.device_operate _)).trans
        (board.device.registers_write index value)
  | updateVoices =>
      exact (congrArg Device.registers (board.device_operate _)).trans
        board.device.registers_updateVoices
  | reset =>
      exact (congrArg Device.registers (board.device_operate _)).trans board.device.registers_reset
  | save => rfl
  | load snapshot =>
      simp only [Operation.words, Operation.restored?]
      cases found : Snapshot.restore snapshot with
      | error refusal => rw [perform_load_refused board found]; rfl
      | ok registers =>
          rw [perform_load_restored board found]
          exact (congrArg Device.registers (board.device_operate _)).trans
            (Device.registers_updateVoices _)
  | playback free =>
      rw [device_perform_playback]
      exact (board.device.playbackReady_call board.memory free).words
  | capture available =>
      rw [device_perform_capture]
      exact (board.device.captureReady_call board.memory available).words

/-- Memory changes only by the bytes of a capture call, stored from the cursor on. -/
theorem memory_perform (board : Board σ) (operation : Operation) :
    (board.perform operation).2.1.memory =
      board.memory.write (board.device.registers.get .captureAddress)
        (carried .capture (board.perform operation).2.2) := by
  by_cases called : operation.called? = some .capture
  · cases operation with
    | capture available =>
        exact (memory_carryOut ..).trans (board.device.memory_captureReady board.memory available)
    | _ => cases called
  · rw [board.carried_perform called]
    cases operation with
    | busRead offset => exact memory_carryOut ..
    | read index => exact memory_carryOut ..
    | load snapshot =>
        cases found : Snapshot.restore snapshot with
        | error refusal => rw [perform_load_refused board found]; rfl
        | ok registers => rw [perform_load_restored board found]; exact board.memory_operate _
    | save => rfl
    | capture available => exact absurd rfl called
    | _ => exact board.memory_operate _

theorem memory_perform_playback (board : Board σ) (free : Nat) :
    (board.perform (.call .playback free)).2.1.memory = board.memory := by
  have apart : Channel.playback ≠ .capture := nofun
  rw [memory_perform, board.carried_perform (Operation.called?_call_ne apart free)]
  rfl

theorem carried_perform_playback (board : Board σ) (operation : Operation) :
    let bytes := carried .playback (board.perform operation).2.2
    bytes = board.memory.read (board.device.registers.get .playbackAddress) bytes.length := by
  by_cases called : operation.called? = some .playback
  · cases operation with
    | playback free => exact board.device.carried_playbackReady board.memory free
    | _ => cases called
  · dsimp only
    rw [board.carried_perform called]
    rfl

/-- No operation moves more bytes over a channel than remain of its transfer. -/
theorem length_carried_perform_le (board : Board σ) (operation : Operation) (channel : Channel) :
    (carried channel (board.perform operation).2.2).length ≤
      (board.device.registers.get channel.remaining).toNat := by
  by_cases called : operation.called? = some channel
  · cases operation with
    | playback free =>
        cases called
        exact (board.device.playbackReady_call board.memory free).bounded
    | capture available =>
        cases called
        exact (board.device.captureReady_call board.memory available).bounded
    | _ => cases called
  · rw [board.carried_perform called]
    exact Nat.zero_le _

/-- Whatever the levels are, an operation pulses the lines of its edges. -/
theorem driven_perform (board : Board σ) (operation : Operation) :
    driven (board.perform operation).2.2 =
      pulses (operation.edges board.device.registers
        (board.perform operation).2.1.device.registers) := by
  cases operation with
  | busRead offset => exact (board.device.silent_read (Device.position offset)).2
  | read index => exact (board.device.silent_read index).2
  | busWrite offset value => exact board.device.driven_write (Device.position offset) value
  | write index value => exact board.device.driven_write index value
  | updateVoices => exact board.device.silent_updateVoices.2
  | reset => exact board.device.silent_reset.2
  | save => rfl
  | load snapshot =>
      cases found : Snapshot.restore snapshot with
      | error refusal =>
          rw [perform_load_refused board found]
          rfl
      | ok registers =>
          rw [perform_load_restored board found]
          exact (Device.silent_updateVoices _).2
  | playback free =>
      rw [device_perform_playback]
      exact (board.device.playbackReady_call board.memory free).lines
  | capture available =>
      rw [device_perform_capture]
      exact (board.device.captureReady_call board.memory available).lines

/-- An operation reaches the lines and the journal only by its actions. -/
theorem perform_eq_carryOut (board : Board σ) (operation : Operation) :
    let after := (board.perform operation).2.1
    after = ({ board with device := after.device, memory := after.memory } : Board σ).carryOut
      (board.perform operation).2.2 := by
  have carried : ∀ (device : Device σ) (memory : Memory) (actions : List Action),
      let after := ({ board with device, memory } : Board σ).carryOut actions
      after = ({ board with device := after.device, memory := after.memory } : Board σ).carryOut
        actions := by
    intro device memory actions
    dsimp only
    rw [device_carryOut, memory_carryOut]
  cases operation with
  | save => rfl
  | load snapshot =>
      cases found : Snapshot.restore snapshot with
      | error refusal =>
          rw [perform_load_refused board found]
          rfl
      | ok registers =>
          rw [perform_load_restored board found]
          exact carried _ board.memory _
  | capture available => exact carried _ _ _
  | busRead | read => exact carried board.device board.memory _
  | _ => exact carried _ board.memory _

theorem lines_perform_eq_foldl (board : Board σ) (operation : Operation) :
    (board.perform operation).2.1.lines =
      (driven (board.perform operation).2.2).foldl (fun lines drive => lines.drive drive.1 drive.2)
        board.lines := by
  rw [perform_eq_carryOut]
  exact lines_carryOut ..

theorem recording_perform (board : Board σ) (operation : Operation) :
    (board.perform operation).2.1.Recording ↔ board.Recording := by
  rw [perform_eq_carryOut]
  exact recording_carryOut ..

theorem events_perform (board : Board σ) (operation : Operation) :
    (board.perform operation).2.1.journal.events =
      if board.Recording
      then (events (board.perform operation).2.2).foldl History.push board.journal.events
      else board.journal.events := by
  rw [perform_eq_carryOut]
  exact events_carryOut ..

/-- On low lines an operation raises its edges and leaves the lines low. -/
theorem lines_perform (board : Board σ) (low : board.lines.AllLow) (operation : Operation) :
    (board.perform operation).2.1.lines =
      board.lines.note (operation.edges board.device.registers
        (board.perform operation).2.1.device.registers) := by
  rw [lines_perform_eq_foldl, driven_perform, Recorder.foldl_pulses low]

end Board

end SoundCard
