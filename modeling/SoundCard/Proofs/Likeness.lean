import SoundCard.Proofs.Machine
import SoundCard.Proofs.Queueing
import SoundCard.Proofs.Refusal

/-!
# Machines that cannot be told apart

Two machines are alike if they have the same words, the same memory, the same levels on their lines,
and voices that are switched the same way over queues with the same content. How a queue is laid out,
which edges were counted or wait to be taken, and what a debugger kept makes no difference. Alike
machines answer every step the same way and stay alike. A card that restores the snapshot of another
one becomes like it as far as the snapshot goes, and the snapshot leaves nothing out but what the
surroundings of the two cards hold.
-/

set_option autoImplicit false

namespace SoundCard

namespace Queues

structure Alike (left right : Queues) : Prop where
  active : ∀ channel, left.active channel = right.active channel
  capacity : left.capacity = right.capacity
  queued : ∀ channel, (left.fifo channel).toList = (right.fifo channel).toList

namespace Alike

variable {left right : Queues}

theorem free (alike : left.Alike right) : left.free = right.free := by
  have active : left.playbackActive = right.playbackActive := alike.active .playback
  have queued : left.playback.toList = right.playback.toList := alike.queued .playback
  unfold Queues.free
  rw [active, alike.capacity, Fifo.size_eq_length, Fifo.size_eq_length, queued]

theorem available (alike : left.Alike right) : left.available = right.available := by
  have active : left.captureActive = right.captureActive := alike.active .capture
  have queued : left.capture.toList = right.capture.toList := alike.queued .capture
  unfold Queues.available
  rw [active, Fifo.size_eq_length, Fifo.size_eq_length, queued]

theorem setActive (alike : left.Alike right) (channel : Channel) (active : Bool) :
    (left.setActive channel active).1.Alike (right.setActive channel active).1 ∧
      (left.setActive channel active).2 = (right.setActive channel active).2 := by
  have played := alike.queued .playback
  have captured := alike.queued .capture
  refine ⟨⟨fun other => ?_, ?_, fun other => ?_⟩, ?_⟩
  · have same := alike.active other
    cases channel <;> cases other <;> first | rfl | exact same
  · cases channel <;> exact alike.capacity
  · cases channel <;> cases other <;> assumption
  · have same := alike.active channel
    cases channel <;> exact congrArg (fun was => if active = was then [] else _) same

theorem play (alike : left.Alike right) (bytes : List UInt8) :
    (left.play bytes).1 = (right.play bytes).1 ∧
      (left.play bytes).2.Alike (right.play bytes).2 := by
  have answer : (left.play bytes).1 = (right.play bytes).1 :=
    congrArg (min bytes.length) alike.free
  refine ⟨answer, ⟨fun channel => ?_, alike.capacity, fun channel => ?_⟩⟩
  · rw [active_play, active_play]
    exact alike.active channel
  · cases channel with
    | playback =>
        show (left.play bytes).2.playback.toList = (right.play bytes).2.playback.toList
        rw [toList_play, toList_play, answer]
        exact congrArg (· ++ _) (alike.queued .playback)
    | capture => exact alike.queued .capture

theorem record (alike : left.Alike right) (room : Nat) :
    (left.record room).1 = (right.record room).1 ∧
      (left.record room).2.Alike (right.record room).2 := by
  have queued : left.capture.toList = right.capture.toList := alike.queued .capture
  have taken : ∀ most, (left.capture.take most).1 = (right.capture.take most).1 := by
    intro most
    rw [Fifo.take_fst, Fifo.take_fst, queued]
  refine ⟨?_, ⟨fun channel => ?_, alike.capacity, fun channel => ?_⟩⟩
  · have filled : ∀ queues : Queues, (queues.record room).1 =
        let bytes := (queues.capture.take (min room queues.available)).1
        ⟨bytes, bytes.length⟩ := fun _ => rfl
    rw [filled, filled, alike.available, taken]
  · rw [active_record, active_record]
    exact alike.active channel
  · cases channel with
    | playback => exact alike.queued .playback
    | capture =>
        show (left.capture.take _).2.toList = (right.capture.take _).2.toList
        rw [Fifo.toList_take_snd, Fifo.toList_take_snd, queued, alike.available]

theorem host (alike : left.Alike right) (action : HostAction) :
    action.drained left = action.drained right ∧ (left.host action).Alike (right.host action) := by
  cases action with
  | drain most =>
      have queued : left.playback.toList = right.playback.toList := alike.queued .playback
      refine ⟨?_, ⟨fun channel => ?_, alike.capacity, fun channel => ?_⟩⟩
      · show (left.playback.take most).1 = (right.playback.take most).1
        rw [Fifo.take_fst, Fifo.take_fst, queued]
      · exact (active_drain ..).trans ((alike.active channel).trans (active_drain ..).symm)
      · cases channel with
        | playback =>
            show (left.playback.take most).2.toList = (right.playback.take most).2.toList
            rw [Fifo.toList_take_snd, Fifo.toList_take_snd, queued]
        | capture => exact alike.queued .capture
  | feed bytes =>
      refine ⟨rfl, ⟨fun channel => ?_, alike.capacity, fun channel => ?_⟩⟩
      · exact (active_feed ..).trans ((alike.active channel).trans (active_feed ..).symm)
      · cases channel with
        | playback => exact alike.queued .playback
        | capture =>
            show (left.capture.push bytes).toList = (right.capture.push bytes).toList
            rw [Fifo.toList_push, Fifo.toList_push]
            exact congrArg (· ++ bytes) (alike.queued .capture)

end Alike

end Queues

namespace Device

structure Alike (left right : Device Queues) : Prop where
  words : left.registers = right.registers
  voices : left.backend.Alike right.backend

/-- Alike cards stay alike and do the same. -/
def Respects (operation : Device Queues → Device Queues × List Action) : Prop :=
  ∀ left right : Device Queues, left.Alike right →
    (operation left).1.Alike (operation right).1 ∧ (operation left).2 = (operation right).2

theorem respects_switch (channel : Channel) (active : Device Queues → Bool)
    (same : ∀ left right : Device Queues, left.Alike right → active left = active right) :
    Respects fun device => device.switch channel (active device) := by
  intro left right alike
  have equal := same left right alike
  obtain ⟨voices, notices⟩ := alike.voices.setActive channel (active right)
  dsimp only
  rw [equal]
  exact ⟨⟨alike.words, voices⟩, congrArg (fun notices => _ :: List.map _ notices) notices⟩

theorem Respects.andThen {first second : Device Queues → Device Queues × List Action}
    (here : Respects first) (there : Respects second) :
    Respects fun device =>
      ((second (first device).1).1, (first device).2 ++ (second (first device).1).2) := by
  intro left right alike
  obtain ⟨middle, before⟩ := here left right alike
  obtain ⟨last, after⟩ := there _ _ middle
  refine ⟨last, ?_⟩
  dsimp only
  rw [before, after]

theorem respects_updateVoices : Respects updateVoices := by
  have enabled : ∀ channel (left right : Device Queues), left.Alike right →
      left.registers.enabled channel = right.registers.enabled channel :=
    fun channel left right alike => congrArg (Bank.enabled · channel) alike.words
  exact (respects_switch .playback _ (enabled .playback)).andThen
    (respects_switch .capture _ (enabled .capture))

theorem respects_store (register : Register) (value : UInt32) :
    Respects fun device => device.store register value := by
  intro left right alike
  have stored : ∀ word, Alike { left with registers := left.registers.set register word }
      { right with registers := right.registers.set register word } :=
    fun word => ⟨congrArg (Bank.set · register word) alike.words, alike.voices⟩
  cases register with
  | playbackControl | captureControl => exact respects_updateVoices _ _ (stored value)
  | codecControl => exact ⟨stored _, rfl⟩
  | _ => exact ⟨stored value, rfl⟩

theorem respects_write (index : Nat) (value : UInt32) :
    Respects fun device => device.write index value := by
  intro left right alike
  unfold write
  cases Register.reached? index with
  | none => exact ⟨alike, rfl⟩
  | some register =>
      obtain ⟨after, actions⟩ := respects_store register value left right alike
      exact ⟨after, congrArg (fun actions => _ :: _ :: actions) actions⟩

theorem respects_reset : Respects reset := by
  have off : ∀ left right : Device Queues, left.Alike right → false = false := fun _ _ _ => rfl
  intro left right alike
  exact ((respects_switch .capture (fun _ => false) off).andThen
    (respects_switch .playback (fun _ => false) off))
    { left with registers := .zero } { right with registers := .zero } ⟨rfl, alike.voices⟩

theorem alike_playChunks (memory : Memory) {left right : Queues} (alike : left.Alike right)
    (address : UInt32) (want : Nat) :
    let here := playChunks memory left address want
    let there := playChunks memory right address want
    here.backend.Alike there.backend ∧ here.count = there.count ∧ here.actions = there.actions := by
  induction want using Nat.strongRecOn generalizing left right address with
  | ind want ih =>
      rw [playChunks, playChunks]
      by_cases unwanted : want = 0
      · rw [if_pos unwanted, if_pos unwanted]
        exact ⟨alike, rfl, rfl⟩
      · rw [if_neg unwanted, if_neg unwanted]
        -- Alike queues answer the first chunk alike, so both loops go on or stop together.
        obtain ⟨same, after⟩ := alike.play (memory.read address (min want stagingSize))
        dsimp only
        cases here : Backend.play left (memory.read address (min want stagingSize)) with
        | mk answer next =>
        cases there : Backend.play right (memory.read address (min want stagingSize)) with
        | mk answer' next' =>
        obtain rfl : answer = answer' :=
          (congrArg Prod.fst here).symm.trans (same.trans (congrArg Prod.fst there))
        replace after : next.Alike next' := by
          rwa [show (left.play _).2 = next from congrArg Prod.snd here,
            show (right.play _).2 = next' from congrArg Prod.snd there] at after
        dsimp only
        split
        · exact ⟨after, rfl, rfl⟩
        · next moving =>
          obtain ⟨backend, count, actions⟩ := ih (want - min answer (min want stagingSize))
            (by omega) after (Memory.step address (min answer (min want stagingSize)))
          exact ⟨backend, congrArg (_ + ·) count, congrArg (_ ++ ·) actions⟩

theorem alike_captureChunks (memory : Memory) {left right : Queues} (alike : left.Alike right)
    (staging : List UInt8) (address : UInt32) (want : Nat) :
    let here := captureChunks memory left staging address want
    let there := captureChunks memory right staging address want
    here.backend.Alike there.backend ∧ here.memory = there.memory ∧ here.count = there.count ∧
      here.actions = there.actions := by
  induction want using Nat.strongRecOn generalizing memory left right staging address with
  | ind want ih =>
      rw [captureChunks, captureChunks]
      by_cases unwanted : want = 0
      · rw [if_pos unwanted, if_pos unwanted]
        exact ⟨alike, rfl, rfl, rfl⟩
      · rw [if_neg unwanted, if_neg unwanted]
        obtain ⟨same, after⟩ := alike.record (min want stagingSize)
        dsimp only
        cases here : Backend.record left (min want stagingSize) with
        | mk fill next =>
        cases there : Backend.record right (min want stagingSize) with
        | mk fill' next' =>
        obtain rfl : fill = fill' :=
          (congrArg Prod.fst here).symm.trans (same.trans (congrArg Prod.fst there))
        replace after : next.Alike next' := by
          rwa [show (left.record _).2 = next from congrArg Prod.snd here,
            show (right.record _).2 = next' from congrArg Prod.snd there] at after
        dsimp only
        split
        · exact ⟨after, rfl, rfl, rfl⟩
        · next moving =>
          obtain ⟨backend, stored, count, actions⟩ :=
            ih (want - min fill.answer (min want stagingSize)) (by omega) _ after _
              (Memory.step address (min fill.answer (min want stagingSize)))
          exact ⟨backend, stored, congrArg (_ + ·) count, congrArg (_ ++ ·) actions⟩

theorem respects_playbackReady (memory : Memory) (free : Nat) :
    Respects fun device => device.playbackReady memory free := by
  rintro ⟨words, left⟩ ⟨words', right⟩ ⟨same, voices⟩
  obtain rfl : words = words' := same
  dsimp only [playbackReady] at voices ⊢
  split
  · exact ⟨⟨rfl, voices⟩, rfl⟩
  · obtain ⟨after, count, actions⟩ := alike_playChunks memory voices
      (words.get .playbackAddress) (min (words.get .playbackRemaining).toNat free)
    rw [count, actions]
    exact ⟨⟨rfl, after⟩, rfl⟩

theorem alike_captureReady (memory : Memory) (available : Nat) {left right : Device Queues}
    (alike : left.Alike right) :
    let here := left.captureReady memory available
    let there := right.captureReady memory available
    here.1.Alike there.1 ∧ here.2 = there.2 := by
  obtain ⟨words, left⟩ := left
  obtain ⟨words', right⟩ := right
  obtain ⟨same, voices⟩ := alike
  obtain rfl : words = words' := same
  dsimp only [captureReady] at voices ⊢
  split
  · exact ⟨⟨rfl, voices⟩, rfl⟩
  · obtain ⟨after, stored, count, actions⟩ := alike_captureChunks memory voices
      (List.replicate (min (min (words.get .captureRemaining).toNat available) stagingSize) 0)
      (words.get .captureAddress) (min (words.get .captureRemaining).toNat available)
    rw [stored, count, actions]
    exact ⟨⟨rfl, after⟩, rfl⟩

end Device

namespace Recorder

/-- Recorders with the same levels keep the same levels and notice the same rises. -/
theorem foldl_drive_congr {left right : Recorder} (same : left.signals = right.signals)
    (driven : List (Line × Bool)) :
    let here := driven.foldl (fun lines drive => lines.drive drive.1 drive.2) left
    let there := driven.foldl (fun lines drive => lines.drive drive.1 drive.2) right
    here.signals = there.signals ∧
      (left.pending = right.pending → here.pending = there.pending) := by
  induction driven generalizing left right with
  | nil => exact ⟨same, id⟩
  | cons drive rest ih =>
      have next : (left.drive drive.1 drive.2).signals = (right.drive drive.1 drive.2).signals := by
        rw [signals_drive, signals_drive, same]
      obtain ⟨later, pending⟩ := ih next
      refine ⟨later, fun waiting => pending ?_⟩
      rw [pending_drive, pending_drive, rise, rise, level, level, same, waiting]

theorem rising_congr {left right : Recorder} (same : left.signals = right.signals)
    (actions : List Action) : left.rising actions = right.rising actions := by
  have listening : { left with pending := [] : Recorder }.signals =
      { right with pending := [] : Recorder }.signals := same
  exact (foldl_drive_congr listening (Action.driven actions)).2 rfl

theorem AllLow.signals_eq {left right : Recorder} (here : left.AllLow) (there : right.AllLow) :
    left.signals = right.signals := by
  apply PerLine.ext_get
  intro line
  rw [here.signal, there.signal]

end Recorder

/-- What can be seen of a step from outside: its answer, the lines that rose, and the drained bytes. -/
def Report.shown (report : Report) : Reply × List Line × List UInt8 :=
  (report.reply, report.edges, report.drained)

namespace Board

structure Alike (left right : Board Queues) : Prop where
  device : left.device.Alike right.device
  memory : left.memory = right.memory
  levels : left.lines.signals = right.lines.signals

namespace Alike

variable {left right : Board Queues}

theorem carryOut (alike : left.Alike right) (actions : List Action) :
    (left.carryOut actions).Alike (right.carryOut actions) := by
  refine ⟨?_, ?_, ?_⟩
  · rw [device_carryOut, device_carryOut]
    exact alike.device
  · rw [memory_carryOut, memory_carryOut]
    exact alike.memory
  · rw [lines_carryOut, lines_carryOut]
    exact (Recorder.foldl_drive_congr alike.levels _).1

theorem operate (alike : left.Alike right)
    {operation : Device Queues → Device Queues × List Action}
    (respects : Device.Respects operation) :
    (left.operate operation).1.Alike (right.operate operation).1 ∧
      (left.operate operation).2 = (right.operate operation).2 := by
  obtain ⟨device, actions⟩ := respects left.device right.device alike.device
  have after : Alike { left with device := (operation left.device).1 }
      { right with device := (operation right.device).1 } :=
    ⟨device, alike.memory, alike.levels⟩
  refine ⟨?_, actions⟩
  unfold Board.operate
  dsimp only
  rw [actions]
  exact after.carryOut _

theorem read (alike : left.Alike right) (index : Nat) :
    (left.read index).1 = (right.read index).1 ∧
      (left.read index).2.1.Alike (right.read index).2.1 ∧
      (left.read index).2.2 = (right.read index).2.2 := by
  have same : left.device.read index = right.device.read index := by
    unfold Device.read
    rw [alike.device.words]
  unfold Board.read
  rw [same]
  exact ⟨rfl, alike.carryOut _, rfl⟩

theorem capture (alike : left.Alike right) (available : Nat) :
    (left.capture available).1.Alike (right.capture available).1 ∧
      (left.capture available).2 = (right.capture available).2 := by
  obtain ⟨device, rest⟩ :=
    Device.alike_captureReady left.memory available alike.device
  rw [alike.memory] at device rest
  have after : Alike
      { left with
        device := (left.device.captureReady left.memory available).1
        memory := (left.device.captureReady left.memory available).2.1 }
      { right with
        device := (right.device.captureReady right.memory available).1
        memory := (right.device.captureReady right.memory available).2.1 } := by
    rw [alike.memory]
    exact ⟨device, congrArg Prod.fst rest, alike.levels⟩
  have actions : (left.device.captureReady left.memory available).2.2 =
      (right.device.captureReady right.memory available).2.2 := by
    rw [alike.memory]
    exact congrArg Prod.snd rest
  refine ⟨?_, actions⟩
  unfold Board.capture
  dsimp only
  rw [actions]
  exact after.carryOut _

theorem playback (alike : left.Alike right) (free : Nat) :
    (left.playback free).1.Alike (right.playback free).1 ∧
      (left.playback free).2 = (right.playback free).2 := by
  unfold Board.playback
  rw [alike.memory]
  exact alike.operate (Device.respects_playbackReady right.memory free)

/-- Alike boards answer an operation alike, and stay alike. -/
theorem perform (alike : left.Alike right) (operation : Operation) :
    (left.perform operation).1 = (right.perform operation).1 ∧
      (left.perform operation).2.1.Alike (right.perform operation).2.1 ∧
      (left.perform operation).2.2 = (right.perform operation).2.2 := by
  cases operation with
  | busRead offset =>
      obtain ⟨value, after, actions⟩ := alike.read (Device.position offset)
      exact ⟨congrArg Reply.word value, after, actions⟩
  | read index =>
      obtain ⟨value, after, actions⟩ := alike.read index
      exact ⟨congrArg Reply.word value, after, actions⟩
  | busWrite offset value =>
      exact ⟨rfl, alike.operate (Device.respects_write (Device.position offset) value)⟩
  | write index value => exact ⟨rfl, alike.operate (Device.respects_write index value)⟩
  | updateVoices => exact ⟨rfl, alike.operate Device.respects_updateVoices⟩
  | reset => exact ⟨rfl, alike.operate Device.respects_reset⟩
  | save =>
      refine ⟨?_, alike, rfl⟩
      show Reply.snapshot left.device.save = Reply.snapshot right.device.save
      rw [Device.save, alike.device.words]
      rfl
  | load snapshot =>
      cases found : Snapshot.restore snapshot with
      | error refusal =>
          rw [perform_load_refused left found, perform_load_refused right found]
          exact ⟨rfl, alike, rfl⟩
      | ok registers =>
          rw [perform_load_restored left found, perform_load_restored right found]
          refine ⟨rfl, alike.operate fun here there devices => ?_⟩
          exact Device.respects_updateVoices _ _ ⟨rfl, devices.voices⟩
  | playback free => exact ⟨rfl, alike.playback free⟩
  | capture available => exact ⟨rfl, alike.capture available⟩

theorem tick (alike : left.Alike right) :
    left.tick.2.1.Alike right.tick.2.1 ∧ left.tick.2.2 = right.tick.2.2 := by
  have voices := alike.device.voices
  have played : left.servePlayback.1.Alike right.servePlayback.1 ∧
      left.servePlayback.2 = right.servePlayback.2 := by
    have active : left.voices.playbackActive = right.voices.playbackActive :=
      voices.active .playback
    have free : left.voices.free = right.voices.free := voices.free
    unfold servePlayback
    rw [active, free]
    split
    · exact alike.playback _
    · exact ⟨alike, rfl⟩
  have captured : left.servePlayback.1.serveCapture.1.Alike right.servePlayback.1.serveCapture.1 ∧
      left.servePlayback.1.serveCapture.2 = right.servePlayback.1.serveCapture.2 := by
    have later := played.1.device.voices
    have active : left.servePlayback.1.voices.captureActive =
        right.servePlayback.1.voices.captureActive := later.active .capture
    have available : left.servePlayback.1.voices.available =
        right.servePlayback.1.voices.available := later.available
    unfold serveCapture
    rw [active, available]
    split
    · exact played.1.capture _
    · exact ⟨played.1, rfl⟩
  refine ⟨⟨captured.1.device, captured.1.memory, captured.1.levels⟩, ?_⟩
  show left.servePlayback.2 ++ left.servePlayback.1.serveCapture.2 =
    right.servePlayback.2 ++ right.servePlayback.1.serveCapture.2
  rw [played.2, captured.2]

theorem step (alike : left.Alike right) (step : Step) :
    (left.step step).1.Alike (right.step step).1 ∧
      (left.step step).2.shown = (right.step step).2.shown := by
  cases step with
  | operate operation =>
      obtain ⟨reply, after, actions⟩ := alike.perform operation
      refine ⟨after, Prod.ext reply (Prod.ext ?_ rfl)⟩
      show left.lines.rising (left.perform operation).2.2 =
        right.lines.rising (right.perform operation).2.2
      rw [actions]
      exact Recorder.rising_congr alike.levels _
  | host action =>
      obtain ⟨drained, voices⟩ := alike.device.voices.host action
      exact ⟨⟨⟨alike.device.words, voices⟩, alike.memory, alike.levels⟩,
        congrArg (fun bytes => (Reply.done, [], bytes)) drained⟩
  | store address bytes =>
      exact ⟨⟨alike.device, congrArg (Memory.write · address bytes) alike.memory, alike.levels⟩, rfl⟩
  | tick =>
      obtain ⟨after, actions⟩ := alike.tick
      refine ⟨after, Prod.ext rfl (Prod.ext ?_ rfl)⟩
      show left.lines.rising left.tick.2.2 = right.lines.rising right.tick.2.2
      rw [actions]
      exact Recorder.rising_congr alike.levels _

theorem steps (alike : left.Alike right) (steps : List Step) :
    (left.steps steps).1.Alike (right.steps steps).1 ∧
      (left.steps steps).2.map Report.shown = (right.steps steps).2.map Report.shown := by
  induction steps generalizing left right with
  | nil => exact ⟨alike, rfl⟩
  | cons step rest ih =>
      obtain ⟨next, shown⟩ := alike.step step
      obtain ⟨last, later⟩ := ih next
      rw [steps_cons, steps_cons, List.map_cons, List.map_cons, shown, later]
      exact ⟨last, rfl⟩

end Alike

theorem withWords_alike {card other : Board Queues} (synchronized : card.device.Synchronized)
    (low : card.lines.AllLow) (otherLow : other.lines.AllLow)
    (capacity : other.voices.capacity = card.voices.capacity)
    (queued : ∀ channel, (other.voices.fifo channel).toList = (card.voices.fifo channel).toList)
    (memory : other.memory = card.memory) : (other.withWords card.words).Alike card := by
  refine ⟨⟨rfl, ⟨fun channel => ?_, capacity, fun channel => ?_⟩⟩, memory, otherLow.signals_eq low⟩
  · refine Eq.trans ?_ (synchronized channel).symm
    cases channel <;> rfl
  · refine Eq.trans ?_ (queued channel)
    cases channel <;> rfl

/-- A snapshot is the whole state of a card. Every board restores it, and then has its words and the
voices that these ask for. If its lines are low, its queues hold the same and its memory is the same
as those of the saved card, no later steps tell the two apart. -/
theorem snapshot_complete (capacity : Nat) (memory : Memory) (journal : Journal Event)
    (watched : Bool) (past : List Phase) (other : Board Queues) :
    let card := ((powerOn (Queues.closed capacity) memory journal watched).1.phases past).1
    let loaded := other.perform (.load card.device.save)
    let restored := loaded.2.1
    loaded.1 = .done ∧ restored.words = card.words ∧
      (∀ channel, restored.voices.active channel =
        (card.words.get channel.control).toNat.testBit 0) ∧
      ((∀ line, card.lines.level line = false) → (∀ line, other.lines.level line = false) →
        other.voices.capacity = card.voices.capacity →
        (∀ channel, (other.voices.fifo channel).toList = (card.voices.fifo channel).toList) →
        other.memory = card.memory →
        ∀ steps,
          let here := restored.steps steps
          let there := card.steps steps
          here.2.map Report.shown = there.2.map Report.shown ∧
            here.1.memory = there.1.memory ∧ here.1.device.save = there.1.device.save) := by
  intro card loaded restored
  have synchronized : card.device.Synchronized := by
    obtain ⟨steps, same⟩ :=
      (powerOn (Queues.closed capacity) memory journal watched).1.exists_steps past
    have lived : card = _ := congrArg Prod.fst same
    rw [lived]
    exact synchronized_steps (synchronized_powerOn capacity memory journal watched) steps
  obtain ⟨done, switched⟩ := other.restores_of_restore (Snapshot.restore_save card.device)
  have whole : restored = other.withWords card.words := switched
  refine ⟨done, ?_, fun channel => ?_, ?_⟩
  · rw [whole]
    rfl
  · rw [whole]
    cases channel <;> rfl
  · intro low otherLow capacity queued memory steps
    have alike : restored.Alike card := by
      rw [whole]
      exact withWords_alike synchronized low otherLow capacity queued memory
    obtain ⟨after, shown⟩ := alike.steps steps
    refine ⟨shown, after.memory, ?_⟩
    rw [Device.save, Device.save, after.device.words]

/-- A card that has played a byte of three, and a board that is still playing two others and got
the same sound from its host in other pieces. -/
theorem snapshot_complete_midway :
    let past : List Phase := [.step (.operate (.write 6 3)), .step (.operate (.write 4 1)),
      .step (.operate (.playback 1)), .step (.host (.feed [7, 9]))]
    let card := ((powerOn (.closed 8) (.zeros 0 8) (.empty false) false).1.phases past).1
    let other := ((powerOn (.closed 8) (.zeros 0 8) (.empty false) false).1.phases
      [.step (.host (.feed [7])), .step (.operate (.write 5 4)), .step (.operate (.write 4 1)),
        .step (.operate (.write 6 4)), .step (.operate (.playback 2)), .step (.host (.drain 1)),
        .step (.host (.feed [9]))]).1
    let restored := (other.perform (.load card.device.save)).2.1
    let steps : List Step := [.tick, .host (.drain 5), .operate (.write 8 1), .operate .save]
    other.words ≠ card.words ∧ (∀ line, card.lines.level line = false) ∧
      (∀ line, other.lines.level line = false) ∧
      (∀ channel, (other.voices.fifo channel).toList = (card.voices.fifo channel).toList) ∧
      (restored.steps steps).2.map Report.shown = (card.steps steps).2.map Report.shown := by
  intro past card other restored steps
  have low : ∀ line, card.lines.level line = false := by
    intro line
    cases line <;> decide +kernel
  have otherLow : ∀ line, other.lines.level line = false := by
    intro line
    cases line <;> decide +kernel
  have queued : ∀ channel,
      (other.voices.fifo channel).toList = (card.voices.fifo channel).toList := by
    intro channel
    cases channel <;> decide +kernel
  have capacity : other.voices.capacity = card.voices.capacity := by decide +kernel
  have memory : other.memory = card.memory := by decide +kernel
  obtain ⟨_, _, _, complete⟩ := snapshot_complete 8 (.zeros 0 8) (.empty false) false past other
  have shown := (complete low otherLow capacity queued memory steps).1
  exact ⟨by decide +kernel, low, otherLow, queued, shown⟩

end Board

end SoundCard
