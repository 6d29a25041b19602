import SoundCard.Proofs.Delivery
import SoundCard.Proofs.Pace

/-!
# What is rendered of a sound file

A stream plays from where it starts, the first byte of the file or the cursor of a snapshot. The first
tick fills the queue with four periods and each later one makes up for the period that was drained, so
how far it gets within its limit has a closed form. A card that is not enabled, or has nothing left,
renders nothing. What was rendered is what the output holds.
-/

set_option autoImplicit false

namespace SoundCard

/-- The room for four periods gives a run three periods more than it has ticks. -/
theorem paced_playbackCapacity {count : Nat} (fits : count < 2 ^ 32) (period ticks : Nat) :
    paced count (Stream.playbackCapacity period) period ticks =
      if 0 < ticks then min count ((ticks + 3) * period) else 0 := by
  cases ticks with
  | zero => rfl
  | succ ticks =>
      have size : UInt64.size = 2 ^ 64 := rfl
      have rounds : (ticks + 1 + 3) * period = ticks * period + 4 * period := by
        rw [← Nat.add_mul]
      rw [if_pos (Nat.succ_pos ticks), rounds, paced, Stream.playbackCapacity, size]
      -- A queue for four periods that cannot be counted holds more than any transfer.
      by_cases small : 4 * period ≤ 2 ^ 64 - 1
      · have drained : min period (4 * period) = period := by omega
        rw [Nat.min_eq_left small, drained, Nat.add_comm]
      · rw [Nat.min_eq_right (Nat.le_of_not_le small)]
        omega

namespace Board

/-- Nothing was heard since the start, and there is nothing to play. -/
structure Silent (start : Board Queues) (heard : List (List UInt8)) (board : Board Queues) : Prop where
  rested : board.Rested
  words : board.words = start.words
  silent : heard.reverse.flatten = []

section

variable {start board : Board Queues} {heard : List (List UInt8)}

theorem Silent.listen (silent : Silent start heard board) (period : Nat) :
    let turn := Stream.listen period heard board.voices
    Silent start turn.1 (board.withVoices turn.2) := by
  have drained := Fifo.take_append_toList board.voices.playback period
  rw [silent.rested.playback] at drained
  obtain ⟨nothing, left⟩ := List.append_eq_nil_iff.mp drained
  obtain ⟨synchronized, low, taken, _, capture⟩ := silent.rested
  refine ⟨⟨fun channel => ?_, low, taken, left, capture⟩, silent.words, ?_⟩
  · exact (Queues.active_drain ..).trans (synchronized channel)
  · show ((board.voices.playback.take period).1 :: heard).reverse.flatten = []
    rw [List.reverse_cons, List.flatten_append, silent.silent, List.flatten_singleton, nothing]
    rfl

/-- A run with nothing to play times out in silence. -/
theorem Rested.run_idle (rested : start.Rested)
    (idle : start.words.enabled .playback = true → start.words.get .playbackRemaining = 0)
    (period limit : Nat) :
    let run := start.run .playbackDone limit (Stream.listen period) []
    run.outcome ≠ .interrupt ∧ Silent start run.host run.board := by
  have works : Works .playbackDone (Stream.listen period) (fun _ heard => Silent start heard)
      fun _ => False := by
    intro ticks heard board silent _
    have listening := silent.listen period
    have still := idle
    rw [← listening.words] at still
    obtain ⟨quiet, rested, words⟩ := listening.rested.tick_idle still
    refine ⟨⟨rested, words.trans listening.words, listening.silent⟩, ?_⟩
    rw [quiet]
    exact iff_of_false List.not_mem_nil id
  have ended := works.run limit (⟨rested, rfl, rfl⟩ : Silent start [] start) id
  exact ⟨fun finished => ended.outcome.mp finished, ended.reached⟩

end

end Board

namespace Stream

/-- Where a stream starts to play, if it does at all, and how many bytes there are. -/
structure Origin where
  enabled : Bool
  address : UInt32
  remaining : Nat
  deriving DecidableEq

namespace Origin

/-- All of the samples, from the first one on. -/
def whole (samples : List Int16) : Origin :=
  ⟨true, memoryBase, 2 * samples.length⟩

def ofWords (words : Bank) : Origin where
  enabled := words.enabled .playback
  address := words.get .playbackAddress
  remaining := (words.get .playbackRemaining).toNat

/-- The start of a stream that plays these samples, unless its snapshot cannot be restored. -/
def find? (store : Store) (options : Options) (samples : List Int16) : Option Origin :=
  match options.loadState with
  | none => some (whole samples)
  | some path => do
    let snapshot ← (store.read path).toOption
    let words ← (Snapshot.restore snapshot).toOption
    return ofWords words

/-- How many bytes are played within a limit. -/
def bytes (origin : Origin) (period limit : Nat) : Nat :=
  if origin.enabled = true ∧ 0 < limit then min origin.remaining ((limit + 3) * period) else 0

/-- Whether these bytes complete the transfer. -/
def completes (origin : Origin) (bytes : Nat) : Bool :=
  decide (origin.enabled = true ∧ 0 < origin.remaining ∧ bytes = origin.remaining)

theorem bytes_le (origin : Origin) (period limit : Nat) :
    origin.bytes period limit ≤ origin.remaining := by
  unfold bytes
  split
  · exact Nat.min_le_left ..
  · exact Nat.zero_le _

end Origin

/-- A card that was armed to play a whole file starts at its first byte. -/
theorem Origin.ofWords_arm {data : List UInt8} (fits : data.length < 2 ^ 32) (period : Nat) :
    ofWords ((fresh data period).arm .playback memoryBase (UInt32.ofNat data.length) 1).words =
      ⟨true, memoryBase, data.length⟩ := by
  obtain ⟨enabled, address, remaining⟩ := words_fresh_arm fits period
  exact congr (congr (congrArg Origin.mk enabled) address) remaining

/-- A stream of which the origin is known is set going there. -/
theorem Origin.exists_started {store : Store} {options : Options} {samples : List Int16}
    {origin : Origin} (fits : 2 * samples.length < 2 ^ 32)
    (found : find? store options samples = some origin) :
    ∃ board, Started store (Sample.toBigEndian samples) options board ∧
      ofWords board.words = origin := by
  unfold find? at found
  unfold Started
  cases asked : options.loadState with
  | none =>
      rw [asked] at found
      cases found
      refine ⟨_, rfl, ?_⟩
      rw [whole, ← Sample.length_toBigEndian]
      rw [← Sample.length_toBigEndian] at fits
      exact ofWords_arm fits options.period
  | some path =>
      rw [asked] at found
      obtain ⟨snapshot, read, found⟩ := Option.bind_eq_some_iff.mp found
      obtain ⟨words, restored, found⟩ := Option.bind_eq_some_iff.mp found
      cases found
      exact ⟨(fresh (Sample.toBigEndian samples) options.period).withWords words,
        ⟨snapshot, words, Except.of_toOption read, Except.of_toOption restored, rfl⟩, rfl⟩

/-- The listener heard the bytes from the origin on, and the run completed if those were all. -/
structure Rendered (data : List UInt8) (origin : Origin) (period limit : Nat)
    (run : Board.Run (List (List UInt8))) : Prop where
  sound : heard run = (loaded data).read origin.address (origin.bytes period limit)
  outcome : run.outcome = .interrupt ↔ origin.completes (origin.bytes period limit) = true

section

variable {data : List UInt8} {period : Nat} {board : Board Queues}

theorem Staged.rendered_playing (staged : Staged data period board)
    (enabled : board.words.enabled .playback = true)
    (unfinished : board.words.get .playbackRemaining ≠ 0) (limit : Nat) :
    Rendered data (Origin.ofWords board.words) period limit
      (board.run .playbackDone limit (listen period) []) := by
  have positive : 0 < (Origin.ofWords board.words).remaining := toNat_pos_of_ne_zero unfinished
  have bytes : board.pace period limit = (Origin.ofWords board.words).bytes period limit := by
    rw [Board.pace, staged.capacity, paced_playbackCapacity (UInt32.toNat_lt _)]
    exact ite_congr (propext (and_iff_right enabled).symm) (fun _ => rfl) fun _ => rfl
  have ended := (Board.paced_works board period).run limit
    (Board.Paced.refl (staged.rested.serving enabled) staged.rested.playback unfinished period)
    (Nat.ne_of_lt positive)
  -- The run may end before its limit, but then there was nothing left to move.
  obtain ⟨moved, outcome⟩ := ended.amount_eq (fun _ _ => paced_mono) paced_le
  generalize board.run .playbackDone limit (listen period) [] = run at *
  have moved : board.pace period run.ticks = board.pace period limit := moved
  have sound := ended.reached.moved.sound
  rw [moved, bytes, staged.memory, staged.rested.playback] at sound
  rw [bytes] at outcome
  refine ⟨sound, outcome.trans ⟨fun all => ?_, fun complete => ?_⟩⟩
  · exact decide_eq_true ⟨enabled, positive, all⟩
  · exact (of_decide_eq_true complete).2.2

theorem Staged.rendered_idle (staged : Staged data period board)
    (idle : board.words.enabled .playback = true → board.words.get .playbackRemaining = 0)
    (limit : Nat) :
    Rendered data (Origin.ofWords board.words) period limit
      (board.run .playbackDone limit (listen period) []) := by
  have drained : (Origin.ofWords board.words).enabled = true →
      (Origin.ofWords board.words).remaining = 0 :=
    fun enabled => congrArg UInt32.toNat (idle enabled)
  have bytes : (Origin.ofWords board.words).bytes period limit = 0 := by
    unfold Origin.bytes
    split
    · next begun => rw [drained begun.1, Nat.zero_min]
    · rfl
  obtain ⟨timeout, silent⟩ := staged.rested.run_idle idle period limit
  refine ⟨?_, iff_of_false timeout fun complete => ?_⟩
  · rw [bytes]
    exact List.append_eq_nil_iff.mpr ⟨silent.silent, silent.rested.playback⟩
  · obtain ⟨enabled, positive, _⟩ := of_decide_eq_true complete
    exact Nat.ne_of_gt positive (drained enabled)

/-- A stream renders the bytes from its origin on, and completes if those were all of them. -/
theorem Staged.rendered (staged : Staged data period board) (limit : Nat) :
    Rendered data (Origin.ofWords board.words) period limit
      (board.run .playbackDone limit (listen period) []) := by
  by_cases enabled : board.words.enabled .playback = true
  · by_cases finished : board.words.get .playbackRemaining = 0
    · exact staged.rendered_idle (fun _ => finished) limit
    · exact staged.rendered_playing enabled finished limit
  · exact staged.rendered_idle (fun playing => absurd playing enabled) limit

end

/-- Playing comes down to the delivery of what was heard. -/
theorem result_play {store : Store} {input output : String} {options : Options}
    {samples : List Int16} {board : Board Queues} (holds : Holds store input samples)
    (nonempty : samples ≠ [])
    (started : Started store (Sample.toBigEndian samples) options board) :
    let run := board.run .playbackDone options.maxTicks (listen options.period) []
    (play input output options).result store =
      (Session.delivery run options output (Sample.ofBigEndian (heard run))
        (heard run).length).result store := by
  intro run
  obtain ⟨result, after, ends⟩ := Session.exists_ends_delivery run options output
    (Sample.ofBigEndian (heard run)) (heard run).length store
  rw [ends.result_eq]
  refine Session.Ends.result_eq ?_
  refine (Session.ends_readGuestBytes holds (Sample.toBigEndian_ne_nil nonempty)).bind ?_
  refine (Session.ends_boot _ _ store).bind ?_
  refine Session.ends_start started ?_
  exact (Session.ends_keep _ store).bind ends

/-- The bytes that are played of some samples within the period and the limit. -/
def Origin.sound (origin : Origin) (samples : List Int16) (options : Options) : List UInt8 :=
  (loaded (Sample.toBigEndian samples)).read origin.address
    (origin.bytes options.period options.maxTicks)

theorem Origin.length_sound (origin : Origin) (samples : List Int16) (options : Options) :
    (origin.sound samples options).length = origin.bytes options.period options.maxTicks :=
  Memory.length_read ..

section

variable {store : Store} {input : String} {options : Options} {samples : List Int16} {origin : Origin}

theorem delivered_play (holds : Holds store input samples) (nonempty : samples ≠ [])
    (found : Origin.find? store options samples = some origin) {bytes : Nat}
    (counted : origin.bytes options.period options.maxTicks = bytes) (output : String) :
    Delivered store output options (Sample.ofBigEndian (origin.sound samples options))
      ⟨bytes, origin.completes bytes⟩ ((play input output options).result store) := by
  obtain ⟨board, started, rfl⟩ := Origin.exists_started holds.frames.2 found
  obtain ⟨sounded, outcome⟩ := started.staged.rendered options.maxTicks
  rw [result_play holds nonempty started]
  generalize board.run .playbackDone options.maxTicks (listen options.period) [] = run at *
  have sounded : heard run = (Origin.ofWords board.words).sound samples options := sounded
  rw [counted] at outcome
  have completed : (run.outcome == .interrupt) = (Origin.ofWords board.words).completes bytes :=
    Bool.eq_iff_iff.mpr (beq_iff_eq.trans outcome)
  have fits : 2 * (Sample.ofBigEndian (heard run)).length < 2 ^ 32 := by
    have bounded := (Origin.ofWords board.words).bytes_le options.period options.maxTicks
    have small : (Origin.ofWords board.words).remaining < 2 ^ 32 := UInt32.toNat_lt _
    rw [Sample.length_ofBigEndian, sounded, Origin.length_sound]
    omega
  have delivered := Session.delivered_delivery run options output bytes fits store
  rw [completed, sounded] at delivered
  rwa [sounded, Origin.length_sound, counted]

theorem Origin.find?_unloaded (store : Store) (unloaded : options.loadState = none)
    (samples : List Int16) : find? store options samples = some (whole samples) := by
  unfold find?
  rw [unloaded]

/-- Without a snapshot the beginning of the file is played. -/
theorem Origin.sound_whole (fits : 2 * samples.length < 2 ^ 32) (options : Options) :
    (whole samples).sound samples options = (Sample.toBigEndian samples).take
      ((whole samples).bytes options.period options.maxTicks) := by
  have bounded := (whole samples).bytes_le options.period options.maxTicks
  generalize counted : (whole samples).bytes options.period options.maxTicks = count at *
  have length := Sample.length_toBigEndian samples
  have within : min count (Sample.toBigEndian samples).length = count :=
    Nat.min_eq_left (length ▸ bounded)
  have small : (Sample.toBigEndian samples).length ≤ 2 ^ 32 := by omega
  have taken := congrArg (List.take count) (read_loaded small)
  rw [Memory.take_read, within] at taken
  rw [sound, counted]
  exact taken

theorem delivered_play_whole (holds : Holds store input samples) (nonempty : samples ≠ [])
    (unloaded : options.loadState = none) {bytes : Nat}
    (counted : (Origin.whole samples).bytes options.period options.maxTicks = bytes)
    (output : String) :
    Delivered store output options (samples.take (bytes / 2))
      ⟨bytes, decide (bytes = 2 * samples.length)⟩ ((play input output options).result store) := by
  have delivered :=
    delivered_play holds nonempty (Origin.find?_unloaded store unloaded samples) counted output
  have positive := List.length_pos_iff.mpr nonempty
  have completes : (Origin.whole samples).completes bytes = decide (bytes = 2 * samples.length) :=
    decide_eq_decide.mpr ⟨fun complete => complete.2.2, fun all =>
      ⟨rfl, Nat.mul_pos Nat.two_pos positive, all⟩⟩
  rwa [Origin.sound_whole holds.frames.2, counted, Sample.ofBigEndian_take, completes] at delivered

end

/-- Whenever a sound file is played into another one, the summary and the output tell the bytes from
the origin on that the period and the limit allow. It succeeds if these are whole frames, and the
output is the input if the limit lets everything be played. -/
theorem playback_rendered (store : Store) (input output : String) (options : Options)
    (samples : List Int16) (origin : Origin)
    (decoded : ((readSamples input).result store).1 = .ok samples) (nonempty : samples ≠ [])
    (found : Origin.find? store options samples = some origin) :
    let ended := (play input output options).result store
    let bytes := origin.bytes options.period options.maxTicks
    (∀ summary, ended.1 = .ok summary →
        summary = ⟨bytes, origin.completes bytes⟩ ∧ ((readSamples output).result ended.2).1 =
          .ok (Sample.ofBigEndian ((loaded (Sample.toBigEndian samples)).read origin.address bytes))) ∧
      (Writable store output options → bytes % 4 = 0 →
        ended.1 = .ok ⟨bytes, origin.completes bytes⟩) ∧
      (Writable store output options → options.loadState = none → 0 < options.maxTicks →
        2 * samples.length ≤ (options.maxTicks + 3) * options.period →
        ended.1 = .ok ⟨2 * samples.length, true⟩ ∧
          ((readSamples output).result ended.2).1 = .ok samples) := by
  intro ended bytes
  have holds := Session.holds_of_result decoded
  have delivered := delivered_play holds nonempty found rfl output
  have count : (Sample.ofBigEndian (origin.sound samples options)).length = bytes / 2 := by
    rw [Sample.length_ofBigEndian, Origin.length_sound]
  refine ⟨delivered.summarized, fun writable frames => ?_,
    fun writable unloaded ticking enough => ?_⟩
  · exact delivered.accepted writable count frames
  · have all : (Origin.whole samples).bytes options.period options.maxTicks = 2 * samples.length :=
      (if_pos ⟨rfl, ticking⟩).trans (Nat.min_eq_left enough)
    have delivered := delivered_play_whole holds nonempty unloaded all output
    rw [Nat.mul_div_cancel_left _ Nat.two_pos, List.take_length, decide_eq_true rfl] at delivered
    obtain ⟨accepted, readable⟩ := delivered.written writable
    exact ⟨accepted.trans (if_pos holds.frames.1), readable.trans (if_pos holds.frames.1)⟩

/-- A snapshot of another stream, of which the cursor stands before the last two of four samples and
that asks for as much again beyond the file, and the whole file by odd periods. -/
theorem playback_rendered_beyond :
    let samples : List Int16 := [1, -2, 3, -4]
    let words := ((Bank.zero.set .playbackControl 1).set .playbackAddress (memoryBase + 4)).set
      .playbackRemaining 8
    let store : Store := ⟨[(["in"], .file (Wave.Sink.file layout samples)),
      (["state"], .file (Snapshot.encode ⟨Snapshot.currentVersion, words⟩))]⟩
    let options : Options := { period := 2, maxTicks := 1, loadState := some "state" }
    let played := (play "in" "out" options).result store
    let whole := (play "in" "out" { period := 3, maxTicks := 1 }).result store
    ((readSamples "in").result store).1 = .ok samples ∧ samples ≠ [] ∧
      Origin.find? store options samples = some ⟨true, memoryBase + 4, 8⟩ ∧
      Writable store "out" options ∧
      played.1 = .ok ⟨8, true⟩ ∧ ((readSamples "out").result played.2).1 = .ok [3, -4, 0, 0] ∧
      whole.1 = .ok ⟨8, true⟩ ∧ ((readSamples "out").result whole.2).1 = .ok samples := by
  intro samples words store options played whole
  have decoded : ((readSamples "in").result store).1 = .ok samples :=
    Except.of_toOption (by decide +kernel)
  have nonempty : samples ≠ [] := by decide
  have found : Origin.find? store options samples = some ⟨true, memoryBase + 4, 8⟩ := by
    decide +kernel
  have usable : store.Usable "out" :=
    Store.usable_iff.mpr ⟨["out"], by decide +kernel, Except.of_toOption (by decide +kernel),
      by decide +kernel⟩
  have writable : Writable store "out" options := ⟨usable, nofun⟩
  obtain ⟨summarized, accepted, _⟩ := playback_rendered store "in" "out" options samples
    ⟨true, memoryBase + 4, 8⟩ decoded nonempty found
  obtain ⟨_, _, complete⟩ := playback_rendered store "in" "out" { period := 3, maxTicks := 1 }
    samples (.whole samples) decoded nonempty rfl
  have completed : played.1 = .ok ⟨8, true⟩ := accepted writable (by decide)
  have sounded := (summarized _ completed).2
  obtain ⟨all, same⟩ := complete ⟨usable, nofun⟩ rfl (by decide) (by decide)
  exact ⟨decoded, nonempty, found, writable, completed,
    sounded.trans (congrArg Except.ok (by decide +kernel)), all, same⟩

end Stream

end SoundCard
