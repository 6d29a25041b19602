import SoundCard.Proofs.Session
import SoundCard.Voice.Queues

/-!
# Voices follow the control words

A voice backed by queues is active exactly if the control word of its channel says so. Only the card
switches voices, and it does so whenever a control word changes, also where it changes the words
without a write.
-/

set_option autoImplicit false

namespace SoundCard

namespace Queues

theorem active_play (queues : Queues) (bytes : List UInt8) (channel : Channel) :
    (queues.play bytes).2.active channel = queues.active channel := by
  cases channel <;> rfl

theorem active_record (queues : Queues) (room : Nat) (channel : Channel) :
    (queues.record room).2.active channel = queues.active channel := by
  cases channel <;> rfl

theorem active_drain (queues : Queues) (most : Nat) (channel : Channel) :
    (queues.drain most).2.active channel = queues.active channel := by
  cases channel <;> rfl

theorem active_feed (queues : Queues) (bytes : List UInt8) (channel : Channel) :
    (queues.feed bytes).active channel = queues.active channel := by
  cases channel <;> rfl

end Queues

theorem Bank.enabled_zero (channel : Channel) : Bank.zero.enabled channel = false := by
  unfold enabled control
  rw [get_zero]
  rfl

theorem Bank.enabled_set (bank : Bank) {register : Register} {channel : Channel} (value : UInt32)
    (apart : channel.control ≠ register) :
    (bank.set register value).enabled channel = bank.enabled channel := by
  unfold enabled control
  rw [get_set, if_neg apart]

namespace Device

theorem active_playChunks (memory : Memory) (queues : Queues) (address : UInt32) (want : Nat)
    (channel : Channel) :
    (playChunks memory queues address want).backend.active channel = queues.active channel := by
  fun_induction playChunks memory queues address want with
  | case1 => rfl
  | case2 queues _ _ _ _ chunk _ next played =>
      have after : next = (queues.play chunk).2 := congrArg Prod.snd played.symm
      exact (congrArg (Queues.active · channel) after).trans (queues.active_play chunk channel)
  | case3 queues _ _ _ _ chunk _ next played _ _ _ _ ih =>
      have after : next = (queues.play chunk).2 := congrArg Prod.snd played.symm
      exact ih.trans ((congrArg (Queues.active · channel) after).trans
        (queues.active_play chunk channel))

theorem active_captureChunks (memory : Memory) (queues : Queues) (staging : List UInt8)
    (address : UInt32) (want : Nat) (channel : Channel) :
    (captureChunks memory queues staging address want).backend.active channel =
      queues.active channel := by
  fun_induction captureChunks memory queues staging address want with
  | case1 => rfl
  | case2 _ queues _ _ _ _ room _ next recorded =>
      have after : next = (queues.record room).2 := congrArg Prod.snd recorded.symm
      exact (congrArg (Queues.active · channel) after).trans (queues.active_record room channel)
  | case3 _ queues _ _ _ _ room _ next recorded _ _ _ _ _ _ _ ih =>
      have after : next = (queues.record room).2 := congrArg Prod.snd recorded.symm
      exact ih.trans ((congrArg (Queues.active · channel) after).trans
        (queues.active_record room channel))

def Synchronized (device : Device Queues) : Prop :=
  ∀ channel, device.backend.active channel = device.registers.enabled channel

theorem synchronized_updateVoices (device : Device Queues) :
    device.updateVoices.1.Synchronized := by
  intro channel
  cases channel <;> rfl

theorem synchronized_reset (device : Device Queues) : device.reset.1.Synchronized := by
  intro channel
  refine Eq.trans ?_ (Bank.enabled_zero channel).symm
  cases channel <;> rfl

theorem Synchronized.store {device : Device Queues} (synchronized : device.Synchronized)
    (register : Register) (value : UInt32) : (device.store register value).1.Synchronized := by
  have kept : ∀ word, (∀ channel : Channel, channel.control ≠ register) →
      Synchronized { device with registers := device.registers.set register word } := by
    intro word apart channel
    exact (synchronized channel).trans (Bank.enabled_set _ word (apart channel)).symm
  cases register with
  | playbackControl | captureControl => exact synchronized_updateVoices _
  | _ =>
      refine kept _ fun channel => ?_
      cases channel <;> exact nofun

theorem Synchronized.write {device : Device Queues} (synchronized : device.Synchronized)
    (index : Nat) (value : UInt32) : (device.write index value).1.Synchronized := by
  unfold Device.write
  cases Register.reached? index with
  | none => exact synchronized
  | some register => exact synchronized.store register value

theorem Synchronized.settle {device : Device Queues} (synchronized : device.Synchronized)
    (channel : Channel) (count : Nat) : (device.settle channel count).1.Synchronized := by
  intro other
  exact (synchronized other).trans (Bank.enabled_advance ..).symm

theorem Synchronized.playbackReady {device : Device Queues} (synchronized : device.Synchronized)
    (memory : Memory) (free : Nat) : (device.playbackReady memory free).1.Synchronized := by
  unfold Device.playbackReady
  dsimp only
  split
  · exact synchronized
  · refine Synchronized.settle (fun channel => ?_) .playback _
    exact (active_playChunks ..).trans (synchronized channel)

theorem Synchronized.captureReady {device : Device Queues} (synchronized : device.Synchronized)
    (memory : Memory) (available : Nat) : (device.captureReady memory available).1.Synchronized := by
  unfold Device.captureReady
  dsimp only
  split
  · exact synchronized
  · refine Synchronized.settle (fun channel => ?_) .capture _
    exact (active_captureChunks ..).trans (synchronized channel)

end Device

namespace Board

theorem synchronized_powerOn (capacity : Nat) (memory : Memory) (journal : Journal Event)
    (watched : Bool) :
    (powerOn (Queues.closed capacity) memory journal watched).1.device.Synchronized := by
  intro channel
  rw [powerOn, device_carryOut]
  refine Eq.trans ?_ (Bank.enabled_zero channel).symm
  cases channel <;> rfl

theorem synchronized_perform {board : Board Queues} (synchronized : board.device.Synchronized)
    (operation : Operation) : (board.perform operation).2.1.device.Synchronized := by
  have told : ∀ actions : List Action, (board.carryOut actions).device.Synchronized := by
    intro actions
    rwa [device_carryOut]
  have operated : ∀ change : Device Queues → Device Queues × List Action,
      (change board.device).1.Synchronized →
      (board.operate change).1.device.Synchronized := by
    intro change kept
    rwa [device_operate]
  cases operation with
  | busRead | read => exact told _
  | busWrite offset value => exact operated _ (synchronized.write (Device.position offset) value)
  | write index value => exact operated _ (synchronized.write index value)
  | updateVoices => exact operated _ board.device.synchronized_updateVoices
  | reset => exact operated _ board.device.synchronized_reset
  | save => exact synchronized
  | load snapshot =>
      cases found : Snapshot.restore snapshot with
      | error refusal =>
          rw [perform_load_refused board found]
          exact synchronized
      | ok registers =>
          rw [perform_load_restored board found]
          exact operated _ (Device.synchronized_updateVoices _)
  | playback free => exact operated _ (synchronized.playbackReady board.memory free)
  | capture available =>
      rw [device_perform_capture]
      exact synchronized.captureReady board.memory available

end Board

end SoundCard
