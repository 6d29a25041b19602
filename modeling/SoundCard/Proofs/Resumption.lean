import SoundCard.Proofs.Lifecycle
import SoundCard.Proofs.Playback

/-!
# Interrupted and resumed

A sound file that is played until the ticks run out, and then on from the snapshot that was saved,
arrives in two pieces which together are the whole. The first run leaves the cursor where it stopped
hearing, the second one starts there and, because it completes, hears everything that remained. Where
the first run stopped inside a frame, one of the two pieces cannot be finished.
-/

set_option autoImplicit false

namespace SoundCard

namespace Stream

/-- A board that is about to play from the loaded bytes. -/
structure Ready (data : List UInt8) (board : Board Queues) : Prop where
  playing : board.Serving .playback
  memory : board.memory = loaded data
  unqueued : board.voices.playback.toList = []

theorem Staged.ready {data : List UInt8} {period : Nat} {board : Board Queues}
    (staged : Staged data period board) (enabled : board.words.enabled .playback = true) :
    Ready data board :=
  ⟨staged.rested.serving enabled, staged.memory, staged.rested.playback⟩

/-- The listener hears the bytes from the cursor on, all that remain exactly if the run completes. -/
theorem Ready.exists_heard {data : List UInt8} {board : Board Queues} (ready : Ready data board)
    (unfinished : board.words.get .playbackRemaining ≠ 0) (period limit : Nat) :
    let run := board.run .playbackDone limit (listen period) []
    ∃ count ≤ (board.words.get .playbackRemaining).toNat,
      heard run = (loaded data).read (board.words.get .playbackAddress) count ∧
        run.board.words = board.words.advance .playback count ∧
        (run.outcome = .interrupt ↔ count = (board.words.get .playbackRemaining).toNat) := by
  obtain ⟨count, moved, outcome⟩ := ready.playing.runFrom unfinished period limit 0 [] []
  refine ⟨count, moved.bounded, ?_, moved.words, outcome⟩
  rw [← ready.memory]
  refine moved.sound.trans ?_
  rw [ready.unqueued]
  rfl

/-- Both pieces have whole frames only if the first one was cut between two of them. -/
theorem cut_between_frames {samples : List Int16} (even : samples.length % 2 = 0)
    {front back : List UInt8} (whole : front ++ back = Sample.toBigEndian samples)
    (frontFinished : (Sample.ofBigEndian front).length % 2 = 0)
    (backFinished : (Sample.ofBigEndian back).length % 2 = 0) :
    Sample.ofBigEndian front ++ Sample.ofBigEndian back = samples := by
  have length := congrArg List.length whole
  rw [List.length_append, Sample.length_toBigEndian] at length
  rw [Sample.length_ofBigEndian] at frontFinished backFinished
  rw [← Sample.ofBigEndian_append (by omega), whole, Sample.ofBigEndian_toBigEndian]

/-- The words of a card that played the first bytes of a file and goes on with the others. -/
structure Underway (data : List UInt8) (words : Bank) (count : Nat) : Prop where
  playback : words.enabled .playback = true
  address : words.get .playbackAddress = Memory.step memoryBase count
  remaining : (words.get .playbackRemaining).toNat = data.length - count
  unfinished : count < data.length

namespace Played

variable {input output : String} {options : Options} {before after : Store} {bytes : Nat}

theorem fits {summary : Summary} (played : Played input output options before summary after) :
    (Sample.toBigEndian played.samples).length < 2 ^ 32 ∧ played.samples.length % 2 = 0 := by
  obtain ⟨even, fits⟩ := played.decoded.frames
  rw [Sample.length_toBigEndian]
  exact ⟨fits, even⟩

/-- The output holds what was heard. -/
theorem holds_output {summary : Summary} (played : Played input output options before summary after)
    (bounded : (heard played.run).length < 2 ^ 32) :
    Holds after output (Sample.ofBigEndian (heard played.run)) := by
  refine ⟨_, Store.read_write_self played.written, Wave.decode_file output played.finished ?_⟩
  rw [Sample.length_ofBigEndian]
  omega

theorem outcome_iff {summary : Summary} (played : Played input output options before summary after) :
    summary.completed = true ↔ played.run.outcome = .interrupt := by
  have completed := congrArg Summary.completed played.summarized
  exact (iff_of_eq (congrArg (· = true) completed)).trans beq_iff_eq

theorem interrupted (played : Played input output options before ⟨bytes, false⟩ after)
    (unloaded : options.loadState = none) :
    ∃ count, Underway (Sample.toBigEndian played.samples) played.run.board.words count ∧
      heard played.run = (loaded (Sample.toBigEndian played.samples)).read memoryBase count := by
  obtain ⟨small, _⟩ := played.fits
  have armed : played.board = (fresh (Sample.toBigEndian played.samples) options.period).arm
      .playback memoryBase (UInt32.ofNat (Sample.toBigEndian played.samples).length) 1 := by
    have started := played.started
    unfold Started at started
    rwa [unloaded] at started
  obtain ⟨enabled, address, counted⟩ := words_fresh_arm small options.period
  rw [← armed] at enabled address counted
  have ready := played.started.staged.ready enabled
  have positive : 0 < (Sample.toBigEndian played.samples).length :=
    List.length_pos_iff.mpr played.nonempty
  have unfinished : played.board.words.get .playbackRemaining ≠ 0 := by
    intro drained
    rw [drained] at counted
    exact absurd counted.symm (Nat.ne_of_gt positive)
  obtain ⟨count, bounded, sound, words, outcome⟩ :=
    ready.exists_heard unfinished options.period options.maxTicks
  rw [← played.ran] at sound words outcome
  have incomplete : count ≠ (played.board.words.get .playbackRemaining).toNat :=
    fun all => nomatch played.outcome_iff.mpr (outcome.mpr all)
  refine ⟨count, ⟨?_, ?_, ?_, ?_⟩, ?_⟩
  · rw [words, Bank.enabled_advance]
    exact enabled
  · rw [words]
    exact (Bank.get_advance_address ..).trans (congrArg (Memory.step · count) address)
  · rw [words, ← counted]
    exact Bank.toNat_get_advance_remaining bounded
  · omega
  · rw [sound]
    exact congrArg (Memory.read _ · count) address

theorem completed (played : Played input output options before ⟨bytes, true⟩ after)
    {path : String} (asked : options.loadState = some path) {snapshot : List UInt8} {words : Bank}
    (found : before.read path = .ok snapshot) (restored : Snapshot.restore snapshot = .ok words)
    {count : Nat} (underway : Underway (Sample.toBigEndian played.samples) words count) :
    heard played.run = (loaded (Sample.toBigEndian played.samples)).read
      (Memory.step memoryBase count) ((Sample.toBigEndian played.samples).length - count) := by
  have resumed : played.board =
      (fresh (Sample.toBigEndian played.samples) options.period).withWords words := by
    have started := played.started
    unfold Started at started
    rw [asked] at started
    obtain ⟨other, others, read, accepted, switched⟩ := started
    rw [found] at read
    cases read
    rw [restored] at accepted
    cases accepted
    exact switched
  have same : played.board.words = words := by
    rw [resumed]
    rfl
  have enabled : played.board.words.enabled .playback = true := by
    rw [same]
    exact underway.playback
  have ready := played.started.staged.ready enabled
  have remaining := underway.remaining
  have unfinished : played.board.words.get .playbackRemaining ≠ 0 := by
    intro drained
    rw [same] at drained
    rw [drained, UInt32.toNat_zero] at remaining
    have more := underway.unfinished
    omega
  obtain ⟨rest, _, sound, _, outcome⟩ :=
    ready.exists_heard unfinished options.period options.maxTicks
  rw [← played.ran] at sound outcome
  have all := outcome.mp (played.outcome_iff.mp rfl)
  rw [sound, all, same, underway.address, remaining]

theorem apart {summary : Summary} (played : Played input output options before summary after)
    {first second : String} (apart : before.Apart first second) : after.Apart first second :=
  (played.saved.apart apart).write played.written

/-- Only the output and the snapshot change. -/
theorem holds_other {summary : Summary} (played : Played input output options before summary after)
    {path : String} {samples : List Int16} (holds : Holds before path samples)
    (apartSnapshot : ∀ snapshot, options.saveState = some snapshot → before.Apart path snapshot)
    (apart : before.Apart path output) : Holds after path samples :=
  (played.saved.holds holds apartSnapshot).write played.written (played.saved.apart apart)

/-- The snapshot is written before the output. -/
theorem read_snapshot {summary : Summary} (played : Played input output options before summary after)
    {path : String} (asked : options.saveState = some path) (apart : before.Apart path output) :
    after.read path = .ok played.run.board.device.save := by
  have saved := played.saved
  unfold Saved at saved
  rw [asked] at saved
  exact Store.read_write_apart played.written (apart.write saved) (Store.read_write_self saved)

end Played

/-- What both runs heard is the whole file. -/
theorem heard_append {input first second snapshot : String} {options options' : Options}
    {before middle after : Store} {bytes bytes' : Nat}
    (played : Played input first options before ⟨bytes, false⟩ middle)
    (played' : Played input second options' middle ⟨bytes', true⟩ after)
    (same : played'.samples = played.samples) (unloaded : options.loadState = none)
    (resumed : options'.loadState = some snapshot)
    (found : middle.read snapshot = .ok played.run.board.device.save) :
    heard played.run ++ heard played'.run = Sample.toBigEndian played.samples := by
  obtain ⟨small, _⟩ := played.fits
  obtain ⟨count, underway, heardFirst⟩ := played.interrupted unloaded
  have heardSecond := played'.completed resumed found
    (Snapshot.restore_save played.run.board.device) (by rwa [same])
  have length : count + ((Sample.toBigEndian played.samples).length - count) =
      (Sample.toBigEndian played.samples).length :=
    Nat.add_sub_of_le (Nat.le_of_lt underway.unfinished)
  rw [same] at heardSecond
  rw [heardFirst, heardSecond, ← Memory.read_add, length, read_loaded (Nat.le_of_lt small)]

theorem exists_pieces {input first second snapshot : String} {options options' : Options}
    {before middle after : Store} {bytes bytes' : Nat} {samples : List Int16}
    (played : Played input first options before ⟨bytes, false⟩ middle)
    (played' : Played input second options' middle ⟨bytes', true⟩ after)
    (unloaded : options.loadState = none) (saved : options.saveState = some snapshot)
    (resumed : options'.loadState = some snapshot) (unsaved : options'.saveState = none)
    (holds : Holds before input samples) (inputFirst : before.Apart input first)
    (inputSnapshot : before.Apart input snapshot) (firstSecond : before.Apart first second)
    (firstSnapshot : before.Apart first snapshot) :
    ∃ front back, Holds after first front ∧ Holds after second back ∧ front ++ back = samples := by
  have holds' : Holds middle input samples := by
    refine played.holds_other holds (fun path asked => ?_) inputFirst
    rw [saved] at asked
    cases asked
    exact inputSnapshot
  have same : played.samples = samples := played.decoded.unique holds
  have same' : played'.samples = samples := played'.decoded.unique holds'
  have whole := heard_append played played' (same'.trans same.symm) unloaded resumed
    (played.read_snapshot saved firstSnapshot.symm)
  obtain ⟨small, even⟩ := played.fits
  have lengths := congrArg List.length whole
  rw [List.length_append] at lengths
  have front := played'.holds_other (played.holds_output (by omega))
    (fun path asked => nomatch unsaved.symm.trans asked) (played.apart firstSecond)
  have back := played'.holds_output (by omega)
  rw [← same]
  exact ⟨_, _, front, back, cut_between_frames even whole played.finished played'.finished⟩

/-- A file that is played until the ticks run out and then on from the snapshot arrives whole, in two
pieces. -/
theorem resumed_playback (store : Store) (input first second snapshot : String)
    (samples : List Int16) (period period' limit limit' bytes bytes' : Nat)
    (apart : [input, first, second, snapshot].Pairwise store.Apart)
    (decoded : ((readSamples input).result store).1 = .ok samples) :
    let start := (play input first { period, maxTicks := limit, saveState := some snapshot }).result
      store
    let rest := (play input second
      { period := period', maxTicks := limit', loadState := some snapshot }).result start.2
    start.1 = .ok ⟨bytes, false⟩ → rest.1 = .ok ⟨bytes', true⟩ →
      ∃ front back, (readSamples first).result rest.2 = (.ok front, rest.2) ∧
        (readSamples second).result rest.2 = (.ok back, rest.2) ∧ front ++ back = samples := by
  intro start rest interrupted completed
  obtain ⟨_, reading⟩ := Session.gives_of_result decoded
  obtain ⟨_, starting⟩ := Session.gives_of_result interrupted
  obtain ⟨_, ending⟩ := Session.gives_of_result completed
  have holds := (Session.gives_readSamples.mp reading).1
  obtain ⟨played⟩ := Session.nonempty_played starting
  obtain ⟨played'⟩ := Session.nonempty_played ending
  obtain ⟨⟨inputFirst, _, inputSnapshot⟩, ⟨firstSecond, firstSnapshot⟩, _⟩ :
      (store.Apart input first ∧ store.Apart input second ∧ store.Apart input snapshot) ∧
        (store.Apart first second ∧ store.Apart first snapshot) ∧ store.Apart second snapshot := by
    simpa using apart
  obtain ⟨front, back, frontHeld, backHeld, whole⟩ := exists_pieces played played' rfl rfl rfl rfl
    holds inputFirst inputSnapshot firstSecond firstSnapshot
  exact ⟨front, back, Session.result_readSamples frontHeld, Session.result_readSamples backHeld,
    whole⟩

/-- Four frames, of which the first run plays three by odd periods. -/
theorem resumed_playback_midway :
    let samples : List Int16 := [1, -2, 3, -4, 5, -6, 7, -8]
    let store : Store := ⟨[(["in"], .file (Wave.Sink.file layout samples))]⟩
    let start := (play "in" "first" { period := 3, maxTicks := 1, saveState := some "state" }).result
      store
    let rest := (play "in" "second" { period := 5, maxTicks := 2, loadState := some "state" }).result
      start.2
    ["in", "first", "second", "state"].Pairwise store.Apart ∧
      ((readSamples "in").result store).1 = .ok samples ∧ start.1 = .ok ⟨12, false⟩ ∧
      rest.1 = .ok ⟨4, true⟩ ∧
      ∃ front back, (readSamples "first").result rest.2 = (.ok front, rest.2) ∧
        (readSamples "second").result rest.2 = (.ok back, rest.2) ∧ front ++ back = samples := by
  intro samples store start rest
  have apart : ["in", "first", "second", "state"].Pairwise store.Apart := by decide +kernel
  have decoded : ((readSamples "in").result store).1 = .ok samples :=
    Except.of_toOption (by decide +kernel)
  have interrupted : start.1 = .ok ⟨12, false⟩ := Except.of_toOption (by decide +kernel)
  have completed : rest.1 = .ok ⟨4, true⟩ := Except.of_toOption (by decide +kernel)
  exact ⟨apart, decoded, interrupted, completed,
    resumed_playback store "in" "first" "second" "state" samples 3 5 1 2 12 4 apart decoded
      interrupted completed⟩

end Stream

end SoundCard
