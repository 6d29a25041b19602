import SoundCard.Proofs.Latest
import SoundCard.Proofs.Machine
import SoundCard.Proofs.Queueing

/-!
# What goes through the queues

Voices backed by queues lose nothing and change no order, whatever is asked of them. The bytes that were
taken into a queue are those that came out of it, followed by those that are still queued. The playback
queue never outgrows its capacity, so its room is what its bytes leave of the capacity. Opening and
switching voices touches neither queue.
-/

set_option autoImplicit false

namespace SoundCard.Queues

/-- What is asked of the voices, by the card or by the host. A recording comes with the buffer that it
goes to. -/
inductive Call where
  | openVoices (card : String) (format : Format)
  | setActive (channel : Channel) (active : Bool)
  | play (bytes : List UInt8)
  | record (buffer : List UInt8)
  | host (action : HostAction)

/-- The bytes that a call brought into the queues and those that it took out of them. -/
structure Traffic where
  accepted : List UInt8 := []
  drained : List UInt8 := []
  fed : List UInt8 := []
  produced : List UInt8 := []
  deriving DecidableEq

namespace Call

def switched? : Call → Option (Channel × Bool)
  | .setActive channel active => some (channel, active)
  | _ => none

/-- A recording produces the bytes that it left at the front of the buffer. -/
def traffic (queues : Queues) : Call → Traffic
  | .openVoices _ _ | .setActive _ _ => {}
  | .play bytes => { accepted := bytes.take (queues.play bytes).1 }
  | .record buffer =>
    let fill := (queues.record buffer.length).1
    { produced := (fill.into buffer.length buffer).take fill.answer }
  | .host action => { drained := action.drained queues, fed := action.fed }

end Call

def call (queues : Queues) : Call → Queues
  | .openVoices card format => (queues.openVoices card format).1
  | .setActive channel active => (queues.setActive channel active).1
  | .play bytes => (queues.play bytes).2
  | .record buffer => (queues.record buffer.length).2
  | .host action => queues.host action

def after (queues : Queues) (history : List Call) : Queues :=
  history.foldl call queues

def traffic (queues : Queues) : List Call → List Traffic
  | [] => []
  | call :: rest => call.traffic queues :: (queues.call call).traffic rest

/-!
## Single calls
-/

theorem play_answer (queues : Queues) (bytes : List UInt8) :
    (queues.play bytes).1 = if queues.active .playback
      then min bytes.length (queues.capacity - queues.playback.toList.length) else 0 := by
  cases switched : queues.playbackActive <;>
    simp [play, free, active, switched, Fifo.size_eq_length]

theorem record_answer (queues : Queues) (room : Nat) :
    (queues.record room).1.answer = if queues.active .capture
      then min room queues.capture.toList.length else 0 := by
  cases switched : queues.captureActive <;>
    simp [record, available, active, switched, Fifo.size_eq_length]

theorem record_stored (queues : Queues) (room : Nat) :
    (queues.record room).1.stored =
      queues.capture.toList.take (queues.record room).1.answer := by
  cases switched : queues.captureActive <;>
    simp [record, available, switched, Fifo.size_eq_length]

theorem toList_record (queues : Queues) (room : Nat) :
    (queues.record room).2.capture.toList =
      queues.capture.toList.drop (queues.record room).1.answer := by
  have whole := queues.stored_append_record room
  rw [record_stored] at whole
  exact List.append_cancel_left (whole.trans (List.take_append_drop ..).symm)

/-- A recording goes to the front of the buffer and leaves the rest of it alone. -/
theorem into_record (queues : Queues) (buffer : List UInt8) :
    let fill := (queues.record buffer.length).1
    fill.into buffer.length buffer =
      queues.capture.toList.take fill.answer ++ buffer.drop fill.answer := by
  obtain ⟨honest, fits⟩ := queues.length_stored_record buffer.length
  have whole : ((queues.record buffer.length).1.stored).take buffer.length =
      (queues.record buffer.length).1.stored := List.take_of_length_le (by omega)
  simp only [Fill.into, whole, honest, ← record_stored]

/-- What a queue holds and what a call brings into it is what the call takes out of it and what it
holds then. -/
theorem call_conserves (queues : Queues) (call : Call) :
    queues.playback.toList ++ (call.traffic queues).accepted =
        (call.traffic queues).drained ++ (queues.call call).playback.toList ∧
      queues.capture.toList ++ (call.traffic queues).fed =
        (call.traffic queues).produced ++ (queues.call call).capture.toList := by
  have still : ∀ bytes : List UInt8, bytes ++ [] = [] ++ bytes := by simp
  cases call with
  | openVoices => exact ⟨still _, still _⟩
  | setActive channel => cases channel <;> exact ⟨still _, still _⟩
  | play bytes => exact ⟨(queues.toList_play bytes).symm, still _⟩
  | record buffer =>
      obtain ⟨honest, fits⟩ := queues.length_stored_record buffer.length
      have produced := Fill.take_into buffer honest fits
      refine ⟨still _, (List.append_nil _).trans ?_⟩
      exact ((congrArg (· ++ _) produced).trans (queues.stored_append_record buffer.length)).symm
  | host action =>
      cases action with
      | drain most => exact ⟨(List.append_nil _).trans (Fifo.take_append_toList ..).symm, still _⟩
      | feed bytes => exact ⟨still _, (Fifo.toList_push ..).symm⟩

/-- The playback queue fits its capacity. -/
def Fits (queues : Queues) (capacity : Nat) : Prop :=
  queues.capacity = capacity ∧ queues.playback.toList.length ≤ capacity

theorem Fits.call {queues : Queues} {capacity : Nat} (fits : queues.Fits capacity) (call : Call) :
    (queues.call call).Fits capacity := by
  obtain ⟨rfl, small⟩ := fits
  cases call with
  | openVoices | record => exact ⟨rfl, small⟩
  | setActive channel => cases channel <;> exact ⟨rfl, small⟩
  | play bytes =>
      refine ⟨rfl, ?_⟩
      have taken := queues.play_answer bytes
      have grown := congrArg List.length (queues.toList_play bytes)
      simp only [List.length_append, List.length_take] at grown
      show (queues.play bytes).2.playback.toList.length ≤ queues.capacity
      split at taken <;> omega
  | host action =>
      cases action with
      | drain most =>
          have left := congrArg List.length (queues.playback.toList_take_snd most)
          simp only [List.length_drop] at left
          refine ⟨rfl, ?_⟩
          show (queues.playback.take most).2.toList.length ≤ queues.capacity
          omega
      | feed bytes => exact ⟨rfl, small⟩

theorem shows_active (channel : Channel) :
    Shows call (fun _ => True) Call.switched? channel (active · channel) id := by
  constructor
  · exact fun _ _ _ => trivial
  · intro queues call active _ switched
    cases call <;> cases switched
    cases channel <;> rfl
  · intro queues call _ apart
    cases call with
    | setActive other active =>
        cases channel <;> cases other <;> first | rfl | exact absurd rfl (apart active)
    | host action => cases action <;> cases channel <;> rfl
    | _ => cases channel <;> rfl

/-!
## Histories
-/

theorem after_conserves (queues : Queues) (history : List Call) :
    queues.playback.toList ++ (queues.traffic history).flatMap Traffic.accepted =
        (queues.traffic history).flatMap Traffic.drained ++
          (queues.after history).playback.toList ∧
      queues.capture.toList ++ (queues.traffic history).flatMap Traffic.fed =
        (queues.traffic history).flatMap Traffic.produced ++
          (queues.after history).capture.toList := by
  induction history generalizing queues with
  | nil => simp [traffic, after]
  | cons call rest ih =>
      obtain ⟨played, recorded⟩ := queues.call_conserves call
      obtain ⟨playedLater, recordedLater⟩ := ih (queues.call call)
      simp only [traffic, List.flatMap_cons]
      constructor
      · rw [← List.append_assoc, played, List.append_assoc, playedLater, ← List.append_assoc]
        rfl
      · rw [← List.append_assoc, recorded, List.append_assoc, recordedLater, ← List.append_assoc]
        rfl

theorem fits_after (capacity : Nat) (history : List Call) :
    ((closed capacity).after history).Fits capacity :=
  List.foldlRecOn (motive := (Fits · capacity)) history call ⟨rfl, Nat.zero_le _⟩
    fun _ fits call _ => fits.call call

/-- Whatever was asked of the voices, the bytes that came out of a queue, followed by those that are
queued, are the bytes that went into it. The playback queue fits its capacity; an active voice takes and
gives as many bytes as it can and an inactive one none; and switching voices does nothing to the queues. -/
theorem queues_lossless (capacity : Nat) (history : List Call) :
    let queues := (closed capacity).after history
    let traffic := (closed capacity).traffic history
    queues.playback.toList.length ≤ capacity ∧
      (queues.active .playback = true →
        queues.free + queues.playback.toList.length = capacity) ∧
      (∀ channel, queues.active channel =
        (latest? (history.filterMap Call.switched?) channel).getD false) ∧
      traffic.flatMap Traffic.drained ++ queues.playback.toList =
        traffic.flatMap Traffic.accepted ∧
      traffic.flatMap Traffic.produced ++ queues.capture.toList = traffic.flatMap Traffic.fed ∧
      (∀ bytes,
        let answer := (queues.play bytes).1
        answer = (if queues.active .playback
          then min bytes.length (capacity - queues.playback.toList.length) else 0) ∧
        (queues.play bytes).2.playback.toList = queues.playback.toList ++ bytes.take answer) ∧
      (∀ buffer,
        let fill := (queues.record buffer.length).1
        fill.answer = (if queues.active .capture
          then min buffer.length queues.capture.toList.length else 0) ∧
        fill.into buffer.length buffer =
          queues.capture.toList.take fill.answer ++ buffer.drop fill.answer ∧
        (queues.record buffer.length).2.capture.toList = queues.capture.toList.drop fill.answer) ∧
      ∀ channel active other,
        (queues.setActive channel active).1.fifo other = queues.fifo other := by
  intro queues traffic
  obtain ⟨size, small⟩ : queues.Fits capacity := fits_after capacity history
  obtain ⟨played, recorded⟩ := (closed capacity).after_conserves history
  refine ⟨small, fun active => ?_, fun channel => ?_, played.symm, recorded.symm, fun bytes => ?_,
    fun buffer => ⟨queues.record_answer _, queues.into_record buffer, queues.toList_record _⟩, ?_⟩
  · have room : queues.free = queues.capacity - queues.playback.size := if_pos active
    rw [room, size, Fifo.size_eq_length]
    omega
  · have off : (closed capacity).active channel = false := by cases channel <;> rfl
    have last : queues.active channel = _ := (shows_active channel).foldl trivial history
    simpa [off] using last
  · exact ⟨size ▸ queues.play_answer bytes, queues.toList_play bytes⟩
  · intro channel active other
    cases channel <;> cases other <;> rfl

/-- Both voices are switched while bytes are queued, and asked in vain before they are on. -/
theorem queues_lossless_switched :
    let history : List Call :=
      [.setActive .playback true, .play [1, 2, 3, 4, 5], .host (.drain 2), .setActive .playback false,
        .play [6], .host (.feed [10, 11]), .record [0, 0], .setActive .capture true,
        .setActive .playback true, .play [7], .record [0]]
    let queues := (closed 4).after history
    let traffic := (closed 4).traffic history
    queues.active .playback = true ∧ queues.free + queues.playback.toList.length = 4 ∧
      traffic.flatMap Traffic.drained = [1, 2] ∧ queues.playback.toList = [3, 4, 7] ∧
      traffic.flatMap Traffic.accepted = [1, 2, 3, 4, 7] ∧
      traffic.flatMap Traffic.produced = [10] ∧ queues.capture.toList = [11] ∧
      traffic.flatMap Traffic.fed = [10, 11] ∧ (queues.play [8, 9]).1 = 1 := by
  intro history queues traffic
  obtain ⟨_, room, switches, played, recorded, answers, _⟩ := queues_lossless 4 history
  have active : queues.active .playback = true := (switches .playback).trans (by decide)
  have drained : traffic.flatMap Traffic.drained = [1, 2] := by decide +kernel
  have produced : traffic.flatMap Traffic.produced = [10] := by decide +kernel
  have queued : queues.playback.toList = [3, 4, 7] := by decide +kernel
  have left : queues.capture.toList = [11] := by decide +kernel
  have answered : (queues.play [8, 9]).1 = 1 := by
    refine (answers [8, 9]).1.trans ?_
    rw [if_pos active, queued]
    rfl
  refine ⟨active, room active, drained, queued, ?_, produced, left, ?_, answered⟩
  · rw [← played, drained, queued]
    rfl
  · rw [← recorded, produced, left]
    rfl

end SoundCard.Queues
