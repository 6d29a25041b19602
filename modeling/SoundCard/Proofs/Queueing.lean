import SoundCard.Proofs.Effects
import SoundCard.Voice.Queues

/-!
# What is queued

The card touches the queues behind its voices only by moving bytes: what goes over the playback
channel is appended to the playback queue, and what goes over the capture channel was at the front of
the capture queue. A queue whose channel is not called stays as it is.
-/

set_option autoImplicit false

namespace SoundCard

namespace Queues

def fifo (queues : Queues) : Channel → Fifo UInt8
  | .playback => queues.playback
  | .capture => queues.capture

theorem toList_play (queues : Queues) (bytes : List UInt8) :
    (queues.play bytes).2.playback.toList =
      queues.playback.toList ++ bytes.take (queues.play bytes).1 :=
  Fifo.toList_push ..

theorem stored_append_record (queues : Queues) (room : Nat) :
    (queues.record room).1.stored ++ (queues.record room).2.capture.toList =
      queues.capture.toList :=
  Fifo.take_append_toList ..

theorem length_stored_record (queues : Queues) (room : Nat) :
    (queues.record room).1.stored.length = (queues.record room).1.answer ∧
      (queues.record room).1.answer ≤ room := by
  refine ⟨rfl, ?_⟩
  show ((queues.capture.take (min room queues.available)).1).length ≤ room
  rw [Fifo.take_fst]
  exact Nat.le_trans (List.length_take_le ..) (Nat.min_le_left ..)

end Queues

/-- A fill that stores as many bytes as it says puts them at the front of the buffer. -/
theorem Fill.take_into {fill : Fill} {room : Nat} (buffer : List UInt8)
    (honest : fill.stored.length = fill.answer) (fits : fill.answer ≤ room) :
    (fill.into room buffer).take fill.answer = fill.stored := by
  have whole : fill.stored.take room = fill.stored := List.take_of_length_le (by omega)
  rw [Fill.into, whole, ← honest, List.take_left]

namespace Device

open SoundCard.Action

/-!
## Calls
-/

theorem fifo_playChunks (memory : Memory) (queues : Queues) (address : UInt32) (want : Nat) :
    let played := playChunks memory queues address want
    played.backend.playback.toList = queues.playback.toList ++ carried .playback played.actions ∧
      played.backend.capture = queues.capture := by
  fun_induction playChunks memory queues address want with
  | case1 => exact ⟨(List.append_nil _).symm, rfl⟩
  | case2 queues address want _ offer chunk answer next played actions taken _ =>
      obtain ⟨rfl, rfl⟩ : (queues.play chunk).1 = answer ∧ (queues.play chunk).2 = next :=
        Prod.mk.inj played
      refine ⟨?_, rfl⟩
      rw [queues.toList_play]
      simp [actions, moved, accepted]
  | case3 queues address want _ offer chunk answer next played actions taken _ rest ih =>
      obtain ⟨rfl, rfl⟩ : (queues.play chunk).1 = answer ∧ (queues.play chunk).2 = next :=
        Prod.mk.inj played
      refine ⟨?_, ih.2⟩
      rw [ih.1, queues.toList_play, carried_append, ← List.append_assoc]
      simp [actions, moved, accepted, rest]

theorem fifo_captureChunks (memory : Memory) (queues : Queues) (staging : List UInt8)
    (address : UInt32) (want : Nat) :
    let captured := captureChunks memory queues staging address want
    carried .capture captured.actions ++ captured.backend.capture.toList =
        queues.capture.toList ∧
      captured.backend.playback = queues.playback := by
  have given : ∀ (queues : Queues) (room : Nat) (staging : List UInt8),
      let fill := (queues.record room).1
      (((fill.into room staging).take room).take fill.answer) = fill.stored := by
    intro queues room staging fill
    obtain ⟨honest, fits⟩ := queues.length_stored_record room
    rw [List.take_take, Nat.min_eq_left fits]
    exact Fill.take_into staging honest fits
  fun_induction captureChunks memory queues staging address want with
  | case1 => exact ⟨rfl, rfl⟩
  | case2 memory queues staging address want _ room fill next recorded buffer call taken _ =>
      obtain ⟨rfl, rfl⟩ : (queues.record room).1 = fill ∧ (queues.record room).2 = next :=
        Prod.mk.inj recorded
      refine ⟨?_, rfl⟩
      simp only [carried_cons, carried_nil, List.append_nil, moved, acquired, call]
      rw [given queues room staging]
      exact queues.stored_append_record room
  | case3 memory queues staging address want _ room fill next recorded buffer call taken _ bytes
      actions rest ih =>
      obtain ⟨rfl, rfl⟩ : (queues.record room).1 = fill ∧ (queues.record room).2 = next :=
        Prod.mk.inj recorded
      refine ⟨?_, ih.2⟩
      simp only [carried_append, carried_cons, carried_notices, List.append_nil, List.append_assoc,
        moved, acquired, call, actions]
      rw [given queues room staging, ih.1]
      exact queues.stored_append_record room

theorem fifo_playbackReady (device : Device Queues) (memory : Memory) (free : Nat) :
    (device.playbackReady memory free).1.backend.playback.toList =
        device.backend.playback.toList ++ carried .playback (device.playbackReady memory free).2 ∧
      (device.playbackReady memory free).1.backend.capture = device.backend.capture := by
  unfold playbackReady
  dsimp only
  split
  · exact ⟨(List.append_nil _).symm, rfl⟩
  · obtain ⟨queued, kept⟩ := fifo_playChunks memory device.backend
      (device.registers.get .playbackAddress)
      (min (device.registers.get .playbackRemaining).toNat free)
    refine ⟨?_, kept⟩
    rw [carried_append, carried_settle, List.append_nil, carried_cons]
    exact queued

theorem fifo_captureReady (device : Device Queues) (memory : Memory) (available : Nat) :
    carried .capture (device.captureReady memory available).2.2 ++
          (device.captureReady memory available).1.backend.capture.toList =
        device.backend.capture.toList ∧
      (device.captureReady memory available).1.backend.playback = device.backend.playback := by
  unfold captureReady
  dsimp only
  split
  · exact ⟨rfl, rfl⟩
  · obtain ⟨supplied, kept⟩ := fifo_captureChunks memory device.backend
      (List.replicate (min (min (device.registers.get .captureRemaining).toNat available)
        stagingSize) 0)
      (device.registers.get .captureAddress)
      (min (device.registers.get .captureRemaining).toNat available)
    refine ⟨?_, kept⟩
    rw [carried_append, carried_settle, List.append_nil, carried_cons]
    exact supplied

/-!
## Other operations
-/

theorem fifo_switch (device : Device Queues) (channel other : Channel) (active : Bool) :
    (device.switch channel active).1.backend.fifo other = device.backend.fifo other := by
  cases channel <;> cases other <;> rfl

theorem fifo_updateVoices (device : Device Queues) (channel : Channel) :
    device.updateVoices.1.backend.fifo channel = device.backend.fifo channel :=
  (fifo_switch _ .capture channel _).trans (fifo_switch _ .playback channel _)

theorem fifo_reset (device : Device Queues) (channel : Channel) :
    device.reset.1.backend.fifo channel = device.backend.fifo channel :=
  (fifo_switch _ .playback channel _).trans (fifo_switch _ .capture channel _)

theorem fifo_write (device : Device Queues) (index : Nat) (value : UInt32) (channel : Channel) :
    (device.write index value).1.backend.fifo channel = device.backend.fifo channel := by
  unfold write
  cases Register.reached? index with
  | none => rfl
  | some register =>
      cases register with
      | playbackControl | captureControl => exact fifo_updateVoices _ channel
      | _ => rfl

end Device

namespace Board

open SoundCard.Action

theorem fifo_perform (board : Board Queues) {operation : Operation} {channel : Channel}
    (uncalled : operation.called? ≠ some channel) :
    (board.perform operation).2.1.device.backend.fifo channel =
      board.device.backend.fifo channel := by
  have told : ∀ actions : List Action,
      (board.carryOut actions).device.backend.fifo channel = board.device.backend.fifo channel := by
    intro actions
    rw [device_carryOut]
  have operated : ∀ change : Device Queues → Device Queues × List Action,
      (change board.device).1.backend.fifo channel = board.device.backend.fifo channel →
      (board.operate change).1.device.backend.fifo channel = board.device.backend.fifo channel := by
    intro change same
    rw [device_operate]
    exact same
  cases operation with
  | busRead | read => exact told _
  | busWrite offset value => exact operated _ (board.device.fifo_write _ value channel)
  | write index value => exact operated _ (board.device.fifo_write index value channel)
  | updateVoices => exact operated _ (board.device.fifo_updateVoices channel)
  | reset => exact operated _ (board.device.fifo_reset channel)
  | save => rfl
  | load snapshot =>
      cases found : Snapshot.restore snapshot with
      | error refusal => rw [perform_load_refused board found]
      | ok registers =>
          rw [perform_load_restored board found]
          exact operated _ (Device.fifo_updateVoices _ channel)
  | playback free =>
      cases channel with
      | playback => exact absurd rfl uncalled
      | capture => exact operated _ (board.device.fifo_playbackReady board.memory free).2
  | capture available =>
      cases channel with
      | playback =>
          rw [device_perform_capture]
          exact (board.device.fifo_captureReady board.memory available).2
      | capture => exact absurd rfl uncalled

/-- What goes over the playback channel is queued behind what was queued before. -/
theorem playback_perform (board : Board Queues) (operation : Operation) :
    (board.perform operation).2.1.device.backend.playback.toList =
      board.device.backend.playback.toList ++ carried .playback (board.perform operation).2.2 := by
  by_cases called : operation.called? = some .playback
  · cases operation with
    | playback free =>
        rw [device_perform_playback]
        exact (board.device.fifo_playbackReady board.memory free).1
    | _ => cases called
  · rw [board.carried_perform called, List.append_nil]
    exact congrArg Fifo.toList (board.fifo_perform called)

/-- What goes over the capture channel is taken from the front of what is queued for it. -/
theorem capture_perform (board : Board Queues) (operation : Operation) :
    carried .capture (board.perform operation).2.2 ++
        (board.perform operation).2.1.device.backend.capture.toList =
      board.device.backend.capture.toList := by
  by_cases called : operation.called? = some .capture
  · cases operation with
    | capture available =>
        rw [device_perform_capture]
        exact (board.device.fifo_captureReady board.memory available).1
    | _ => cases called
  · rw [board.carried_perform called, List.nil_append]
    exact congrArg Fifo.toList (board.fifo_perform called)

end Board

end SoundCard
