import SoundCard.Proofs.Ending
import SoundCard.Proofs.Serving
import SoundCard.Stream

/-!
# Speaking into the microphone

A run on a board that serves the capture channel, while the host feeds a sound piece by piece. Each
tick stores all that waits, as far as bytes remain, so what was stored after so many ticks is a prefix
of the sound, and what is queued then is the part that was fed beyond it.
-/

set_option autoImplicit false

namespace SoundCard

/-- How many of `count` bytes were stored after some ticks, if before each tick the next `chunk` bytes
of a sound of this length are fed. -/
def gathered (count length chunk ticks : Nat) : Nat :=
  min count (min length (ticks * chunk))

section

variable {count length chunk : Nat}

theorem gathered_le (ticks : Nat) : gathered count length chunk ticks ≤ count :=
  Nat.min_le_left ..

theorem gathered_mono {first second : Nat} (ordered : first ≤ second) :
    gathered count length chunk first ≤ gathered count length chunk second := by
  have more := Nat.mul_le_mul_right chunk ordered
  unfold gathered
  omega

theorem gathered_lasting {first second : Nat} (ordered : first ≤ second)
    (all : gathered count length chunk first = count) :
    gathered count length chunk second = count := by
  have more : gathered count length chunk first ≤ gathered count length chunk second :=
    gathered_mono ordered
  have most : gathered count length chunk second ≤ count := gathered_le second
  omega

/-- A tick stores what was fed and not stored yet. -/
theorem gathered_succ (ticks : Nat) :
    gathered count length chunk (ticks + 1) = gathered count length chunk ticks +
      min (count - gathered count length chunk ticks)
        (min length ((ticks + 1) * chunk) - gathered count length chunk ticks) := by
  have more : ticks * chunk ≤ (ticks + 1) * chunk := Nat.mul_le_mul_right chunk (Nat.le_succ ticks)
  unfold gathered
  omega

end

/-- The host gives the next piece of the sound, and keeps the rest. -/
theorem Stream.speak_spec (period : Nat) (left : List UInt8) (voices : Queues) :
    (speak period left voices).1 = left.drop (max period 1) ∧
      ∃ capture, (speak period left voices).2 = { voices with capture } ∧
        capture.toList = voices.capture.toList ++ left.take (max period 1) := by
  unfold speak
  split
  · next silent =>
    subst silent
    exact ⟨List.drop_nil.symm, voices.capture, rfl, by rw [List.take_nil, List.append_nil]⟩
  · exact ⟨rfl, _, rfl, Fifo.toList_push ..⟩

namespace Board

open SoundCard.Action

namespace Serving

variable {board : Board Queues}

theorem speak (serving : board.Serving .capture) (period : Nat) (left : List UInt8) :
    (board.withVoices (Stream.speak period left board.voices).2).Serving .capture := by
  obtain ⟨_, capture, fed, _⟩ := Stream.speak_spec period left board.voices
  rw [fed]
  refine ⟨fun channel => ?_, serving.enabled, fun other apart => ?_, serving.low, serving.taken⟩
  · refine Eq.trans ?_ (serving.synchronized channel)
    cases channel <;> rfl
  · cases other with
    | playback => exact serving.others .playback apart
    | capture => exact absurd rfl apart

/-- A tick stores what waits longest, as far as bytes remain. -/
theorem capture_tick (serving : board.Serving .capture) :
    let count := min (board.words.get .captureRemaining).toNat board.voices.capture.toList.length
    board.tick.2.1.words = board.words.advance .capture count ∧
      board.tick.2.1.memory = board.memory.write (board.words.get .captureAddress)
        (board.voices.capture.toList.take count) ∧
      board.tick.2.1.voices.capture.toList = board.voices.capture.toList.drop count := by
  intro count
  have ready : board.voices.ready .capture = board.voices.capture.toList.length :=
    (if_pos serving.active).trans (Fifo.size_eq_length _)
  have moved : min (min (board.words.get .captureRemaining).toNat (board.voices.ready .capture))
      (board.voices.ready .capture) = count := by
    rw [ready]
    exact Nat.min_eq_left (Nat.min_le_right ..)
  have given : carried .capture
      (board.perform (.call .capture (board.voices.ready .capture))).2.2 =
        board.voices.capture.toList.take count :=
    (board.carried_capture_call _).trans (congrArg (List.take · _) moved)
  have words := board.words_call .capture (board.voices.ready .capture)
  have memory := board.memory_perform (.call .capture (board.voices.ready .capture))
  have queued := board.capture_perform (.call .capture (board.voices.ready .capture))
  rw [given, List.length_take, Nat.min_eq_left (Nat.min_le_right ..)] at words
  rw [given] at memory queued
  rw [serving.tick_eq.2, words_takePulses, memory_takePulses, voices_takePulses, served]
  refine ⟨words, memory, ?_⟩
  exact List.append_cancel_left (queued.trans (List.take_append_drop ..).symm)

end Serving

/-- How many bytes of the sound a run from this board has stored after some ticks. -/
def intake (start : Board Queues) (sound : List UInt8) (period ticks : Nat) : Nat :=
  gathered (start.words.get .captureRemaining).toNat sound.length (max period 1) ticks

theorem length_take_intake (start : Board Queues) (sound : List UInt8) (period ticks : Nat) :
    (sound.take (start.intake sound period ticks)).length = start.intake sound period ticks := by
  rw [List.length_take, intake, gathered]
  omega

/-- A run that started with an empty queue stored a part of what was fed in some ticks. The host keeps
what it did not feed. -/
structure Gathered (start : Board Queues) (sound : List UInt8) (period ticks : Nat)
    (left : List UInt8) (board : Board Queues) : Prop where
  serving : board.Serving .capture
  left : left = sound.drop (ticks * max period 1)
  words : board.words = start.words.advance .capture (start.intake sound period ticks)
  memory : board.memory = start.memory.write (start.words.get .captureAddress)
    (sound.take (start.intake sound period ticks))
  queued : board.voices.capture.toList =
    (sound.take (ticks * max period 1)).drop (start.intake sound period ticks)
  edges : board.lines.count .captureDone = start.lines.count .captureDone +
    if start.intake sound period ticks = (start.words.get .captureRemaining).toNat then 1 else 0

namespace Gathered

variable {start board : Board Queues} {sound left : List UInt8} {period ticks : Nat}

/-- Nothing was stored before the first tick. -/
theorem refl (serving : start.Serving .capture) (unqueued : start.voices.capture.toList = [])
    (unfinished : start.words.get .captureRemaining ≠ 0) (sound : List UInt8) (period : Nat) :
    Gathered start sound period 0 sound start := by
  have unstored : start.intake sound period 0 = 0 := by
    simp [intake, gathered]
  have undone : start.intake sound period 0 ≠ (start.words.get .captureRemaining).toNat := by
    rw [unstored]
    exact Nat.ne_of_lt (toNat_pos_of_ne_zero unfinished)
  refine ⟨serving, ?_, ?_, ?_, ?_, ?_⟩
  · rw [Nat.zero_mul, List.drop_zero]
  · rw [unstored, Bank.advance_zero]
  · rw [unstored, List.take_zero]
    rfl
  · rw [unqueued, unstored, Nat.zero_mul, List.take_zero, List.drop_nil]
  · rw [if_neg undone, Nat.add_zero]

theorem remaining (gathered : Gathered start sound period ticks left board) :
    (board.words.get .captureRemaining).toNat =
      (start.words.get .captureRemaining).toNat - start.intake sound period ticks := by
  rw [gathered.words]
  exact Bank.toNat_get_advance_remaining (gathered_le ticks)

theorem address (gathered : Gathered start sound period ticks left board) :
    board.words.get .captureAddress =
      Memory.step (start.words.get .captureAddress) (start.intake sound period ticks) := by
  rw [gathered.words]
  exact Bank.get_advance_address ..

/-- What waits after the host fed the next piece is all that was fed and not stored. -/
theorem waiting (gathered : Gathered start sound period ticks left board) :
    (Stream.speak period left board.voices).2.capture.toList =
      (sound.take ((ticks + 1) * max period 1)).drop (start.intake sound period ticks) := by
  obtain ⟨_, capture, fed, queue⟩ := Stream.speak_spec period left board.voices
  have within : start.intake sound period ticks ≤ (sound.take (ticks * max period 1)).length := by
    rw [List.length_take, intake, SoundCard.gathered]
    omega
  rw [fed, queue, gathered.queued, gathered.left, Nat.succ_mul, List.take_add,
    List.drop_append_of_le_length within]

/-- The next tick stores what waits, as far as bytes remain. -/
theorem intake_succ (gathered : Gathered start sound period ticks left board) :
    start.intake sound period (ticks + 1) = start.intake sound period ticks +
      min (board.words.get .captureRemaining).toNat
        (Stream.speak period left board.voices).2.capture.toList.length := by
  rw [gathered.waiting, gathered.remaining, List.length_drop, List.length_take,
    Nat.min_comm _ sound.length]
  exact gathered_succ ticks

theorem completes_iff (gathered : Gathered start sound period ticks left board)
    (unfinished : start.intake sound period ticks < (start.words.get .captureRemaining).toNat)
    {count : Nat} (fits : count ≤ (board.words.get Channel.capture.remaining).toNat)
    (stored : start.intake sound period (ticks + 1) = start.intake sound period ticks + count) :
    board.words.Completes (board.words.advance .capture count) .capture ↔
      start.intake sound period (ticks + 1) = (start.words.get .captureRemaining).toNat := by
  have remaining := gathered.remaining
  have all : count = (board.words.get .captureRemaining).toNat ↔
      start.intake sound period (ticks + 1) = (start.words.get .captureRemaining).toNat := by omega
  have positive : 0 < (board.words.get .captureRemaining).toNat := by omega
  rw [Bank.completes_advance_iff fits]
  exact ⟨fun complete => all.mp complete.2.2,
    fun last => ⟨gathered.serving.enabled, positive, all.mpr last⟩⟩

/-- One turn of the host and one tick store what waits, as far as bytes remain. -/
theorem tick (gathered : Gathered start sound period ticks left board)
    (unfinished : start.intake sound period ticks < (start.words.get .captureRemaining).toNat) :
    let turn := Stream.speak period left board.voices
    let next := (board.withVoices turn.2).tick
    Gathered start sound period (ticks + 1) turn.1 next.2.1 ∧
      (.captureDone ∈ next.1 ↔
        start.intake sound period (ticks + 1) = (start.words.get .captureRemaining).toNat) := by
  intro turn next
  have serving := gathered.serving.speak period left
  obtain ⟨served, rose, counted⟩ := serving.tick
  obtain ⟨words, memory, queued⟩ := serving.capture_tick
  have waiting : (board.withVoices turn.2).voices.capture.toList = _ := gathered.waiting
  have stored : start.intake sound period (ticks + 1) = start.intake sound period ticks +
      min (board.words.get .captureRemaining).toNat
        (board.withVoices turn.2).voices.capture.toList.length := gathered.intake_succ
  generalize same : min (board.words.get .captureRemaining).toNat
    (board.withVoices turn.2).voices.capture.toList.length = count at stored
  have fits : count ≤ (board.words.get Channel.capture.remaining).toNat := same ▸ Nat.min_le_left ..
  -- What is stored was fed, so it is a part of the sound and not only of what waits.
  have short : count ≤ (ticks + 1) * max period 1 - start.intake sound period ticks := by
    rw [waiting, List.length_drop, List.length_take] at same
    omega
  have words : next.2.1.words = board.words.advance .capture count := same ▸ words
  have memory : next.2.1.memory = board.memory.write (board.words.get .captureAddress)
      ((board.withVoices turn.2).voices.capture.toList.take count) := same ▸ memory
  have queued : next.2.1.voices.capture.toList =
      (board.withVoices turn.2).voices.capture.toList.drop count := same ▸ queued
  have completes : board.words.Completes next.2.1.words .capture ↔
      start.intake sound period (ticks + 1) = (start.words.get .captureRemaining).toNat := by
    rw [words]
    exact gathered.completes_iff unfinished fits stored
  refine ⟨⟨served, ?_, ?_, ?_, ?_, ?_⟩, rose.trans completes⟩
  · rw [(Stream.speak_spec period left board.voices).1, gathered.left, List.drop_drop, Nat.succ_mul]
  · rw [words, gathered.words, Bank.advance_advance, stored]
  · rw [memory, waiting, List.drop_take, List.take_take, Nat.min_eq_left short, gathered.memory,
      gathered.address, stored, List.take_add, Memory.write_append, length_take_intake]
  · rw [queued, waiting, List.drop_drop, stored]
  · have edges := gathered.edges
    rw [if_neg (Nat.ne_of_lt unfinished), Nat.add_zero] at edges
    refine counted.trans (congr (congrArg _ edges) ?_)
    exact ite_congr (propext completes) (fun _ => rfl) fun _ => rfl

/-- The run ends with the first tick at which all that remained was stored, or at its limit. -/
theorem run (gathered : Gathered start sound period 0 sound start)
    (unfinished : start.words.get .captureRemaining ≠ 0) (limit : Nat) :
    Ended (Gathered start sound period)
      (fun ticks =>
        start.intake sound period ticks = (start.words.get .captureRemaining).toNat) limit
      (start.run .captureDone limit (Stream.speak period) sound) := by
  have works : Works .captureDone (Stream.speak period) (Gathered start sound period) fun ticks =>
      start.intake sound period ticks = (start.words.get .captureRemaining).toNat :=
    fun _ _ _ gathered undone => gathered.tick (Nat.lt_of_le_of_ne (gathered_le _) undone)
  refine works.run limit gathered ?_
  have unstored : start.intake sound period 0 = 0 := by
    simp [intake, SoundCard.gathered]
  rw [unstored]
  exact Nat.ne_of_lt (toNat_pos_of_ne_zero unfinished)

end Gathered

/-- A run on a card of which the capture channel was armed right after power on. -/
theorem gathered_powerOn (capacity : Nat) (memory : Memory) (journal : Journal Event)
    (watched : Bool) (address count : UInt32) {control : UInt32} (nonempty : count ≠ 0)
    (enable : control.toNat.testBit 0 = true) (limit period : Nat) (sound : List UInt8) :
    let start := (powerOn (Queues.closed capacity) memory journal watched).1.arm .capture address
      count control
    let stored := gathered count.toNat sound.length (max period 1)
    (start.words.get .captureAddress = address ∧ start.words.get .captureRemaining = count ∧
        start.memory = memory ∧ start.lines = .quiet) ∧
      start.intake sound period = stored ∧
      Ended (Gathered start sound period) (fun ticks => stored ticks = count.toNat) limit
        (start.run .captureDone limit (Stream.speak period) sound) := by
  intro start stored
  obtain ⟨serving, kept, quiet, _, unqueued, _⟩ :=
    powerOn_serving capacity memory journal watched .capture address count enable
  obtain ⟨_, cursor, remaining⟩ : start.lines.AllLow ∧
      start.words.get .captureAddress = address ∧ start.words.get .captureRemaining = count :=
    arm_spec (fun line => allLow_powerOn _ _ _ _ line) .capture address count control
  have intake : start.intake sound period = stored := by
    funext ticks
    rw [Board.intake, remaining]
  have unfinished : start.words.get .captureRemaining ≠ 0 := by
    rw [remaining]
    exact nonempty
  have ended := (Gathered.refl serving unqueued unfinished sound period).run unfinished limit
  rw [intake, remaining] at ended
  exact ⟨⟨cursor, remaining, kept, quiet⟩, intake, ended⟩

/-- A card that is armed right after power on stores what the host feeds it: the run ends with the
interrupt after the first tick at which everything was stored, if that is within the limit, and then
or at the limit the words, the memory, the queue and the line agree on what was fed and stored. -/
theorem capture_paced (capacity : Nat) (memory : Memory) (journal : Journal Event) (watched : Bool)
    (address count control : UInt32) (nonempty : count ≠ 0)
    (enable : control.toNat.testBit 0 = true) (limit chunk : Nat) (positive : 0 < chunk)
    (sound : List UInt8) :
    let start := (powerOn (Queues.closed capacity) memory journal watched).1.arm .capture address
      count control
    let run := start.run .captureDone limit (Stream.speak chunk) sound
    let stored := gathered count.toNat sound.length chunk
    (run.outcome = .interrupt ↔ ∃ ticks ≤ limit, stored ticks = count.toNat) ∧
      (run.outcome = .interrupt →
        stored run.ticks = count.toNat ∧ ∀ ticks < run.ticks, stored ticks ≠ count.toNat) ∧
      (run.outcome = .timeout → run.ticks = limit) ∧
      (run.board.words.get .captureRemaining).toNat = count.toNat - stored run.ticks ∧
      run.board.words.get .captureAddress = Memory.step address (stored run.ticks) ∧
      (∀ other, run.board.memory.maps other = memory.maps other) ∧
      (∀ distance < stored run.ticks, memory.maps (Memory.step address distance) = true →
        sound[distance]? = some (run.board.memory.byteAt (Memory.step address distance))) ∧
      (∀ other, (∀ distance < stored run.ticks, other ≠ Memory.step address distance) →
        run.board.memory.byteAt other = memory.byteAt other) ∧
      run.board.voices.capture.toList = (sound.take (run.ticks * chunk)).drop (stored run.ticks) ∧
      run.board.voices.capture.toList.length =
        min sound.length (run.ticks * chunk) - stored run.ticks ∧
      run.board.lines.count .captureDone = (if run.outcome = .interrupt then 1 else 0) := by
  intro start run stored
  obtain ⟨⟨cursor, remaining, kept, quiet⟩, intake, ended⟩ :=
    gathered_powerOn capacity memory journal watched address count nonempty enable limit chunk sound
  rw [Nat.max_eq_left positive] at intake ended
  have intake : start.intake sound chunk = stored := intake
  have reached : Gathered start sound chunk run.ticks run.host run.board := ended.reached
  have queued := reached.queued
  rw [Nat.max_eq_left positive, intake] at queued
  have length : (sound.take (stored run.ticks)).length = stored run.ticks := by
    rw [← intake]
    exact length_take_intake ..
  have written : run.board.memory = memory.write address (sound.take (stored run.ticks)) := by
    rw [reached.memory, intake, kept, cursor]
  have fits : (sound.take (stored run.ticks)).length ≤ 2 ^ 32 := by
    rw [length]
    exact Nat.le_trans (gathered_le run.ticks) (Nat.le_of_lt (UInt32.toNat_lt count))
  refine ⟨ended.outcome_iff fun _ _ => gathered_lasting, fun done => ⟨ended.outcome.mp done, ended.earlier⟩, ended.timeout,
    ?_, ?_, fun other => ?_, fun distance inside backed => ?_, fun other apart => ?_, queued, ?_, ?_⟩
  · rw [reached.remaining, intake, remaining]
  · rw [reached.address, intake, cursor]
  · rw [written, Memory.maps_write]
  · rw [← length] at inside
    rw [written, Memory.byteAt_write_step fits inside backed, List.getElem_take]
    exact List.getElem?_eq_getElem _
  · rw [← length] at apart
    rw [written, Memory.byteAt_write_apart apart]
  · rw [queued, List.length_drop, List.length_take, Nat.min_comm]
  · refine reached.edges.trans ?_
    rw [quiet, intake, remaining]
    exact (Nat.zero_add _).trans
      (ite_congr (propext ended.outcome.symm) (fun _ => rfl) fun _ => rfl)

/-- Four bytes across the top of the address space, of which the window backs three, from a sound of
seven that is fed in pieces of three. -/
theorem capture_paced_wrapped :
    let memory : Memory := ⟨0xFFFFFFFE, #[9, 9, 9, 9]⟩
    let start := (powerOn (Queues.closed 0) memory (.empty false) false).1.arm .capture 0xFFFFFFFF 4 1
    let run := start.run .captureDone 5 (Stream.speak 3) [1, 2, 3, 4, 5, 6, 7]
    (4 : UInt32) ≠ 0 ∧ (1 : UInt32).toNat.testBit 0 = true ∧ 0 < 3 ∧
      (List.range 4).map (gathered 4 7 3) = [0, 3, 4, 4] ∧
      run.outcome = .interrupt ∧ run.ticks = 2 ∧ run.board.memory.byteAt 1 = 3 ∧
      run.board.memory.byteAt 0xFFFFFFFE = 9 ∧ run.board.voices.capture.toList = [5, 6] := by
  intro memory start run
  have nonempty : (4 : UInt32) ≠ 0 := by decide
  have enable : (1 : UInt32).toNat.testBit 0 = true := by decide
  have ticks : run.ticks = 2 := by decide +kernel
  obtain ⟨outcome, _, _, _, _, _, bytes, others, queued, _⟩ :=
    capture_paced 0 memory (.empty false) false 0xFFFFFFFF 4 1 nonempty enable 5 3 (by decide)
      [1, 2, 3, 4, 5, 6, 7]
  have ended : run.outcome = .interrupt := outcome.mpr ⟨2, by decide, by decide⟩
  have stored : gathered 4 7 3 run.ticks = 4 := by
    rw [ticks]
    decide
  have third : run.board.memory.byteAt (Memory.step 0xFFFFFFFF 2) = 3 :=
    (Option.some.inj (bytes 2 (stored ▸ by decide) (by decide +kernel))).symm
  have wrapped : Memory.step 0xFFFFFFFF 2 = 1 := by decide
  have apart : ∀ distance < 4, (0xFFFFFFFE : UInt32) ≠ Memory.step 0xFFFFFFFF distance := by decide
  have first : run.board.memory.byteAt 0xFFFFFFFE = 9 :=
    (others 0xFFFFFFFE fun distance inside => apart distance (stored ▸ inside)).trans
      (by decide +kernel)
  have left : run.board.voices.capture.toList = [5, 6] := by
    refine queued.trans ?_
    show List.drop (gathered 4 7 3 run.ticks) (List.take (run.ticks * 3) [1, 2, 3, 4, 5, 6, 7]) = _
    rw [stored, ticks]
    decide
  rw [wrapped] at third
  exact ⟨nonempty, enable, by decide, by decide, ended, ticks, third, first, left⟩

end Board

end SoundCard
