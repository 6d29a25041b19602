import SoundCard.Proofs.Listening
import SoundCard.Proofs.Refusal
import SoundCard.Proofs.SoundFile
import SoundCard.Proofs.Storage
import SoundCard.Proofs.Transfer

/-!
# What a played file went through

If playing a sound file into another one succeeds, the file was decoded and its bytes were loaded into
guest memory, the card was armed or restored, it ran, a snapshot was saved if one was asked for, and
what the listener heard was written. Nothing else happened to the store.
-/

set_option autoImplicit false

namespace SoundCard

theorem Board.exists_of_load {board after : Board Queues} {snapshot : List UInt8}
    {actions : List Action} (restored : board.load snapshot = .ok (after, actions)) :
    ∃ words, Snapshot.restore snapshot = .ok words ∧ after = board.withWords words := by
  have performed : board.perform (.load snapshot) = (.done, after, actions) := by
    rw [perform, restored]
  cases accepted : Snapshot.restore snapshot with
  | error refusal =>
      rw [perform_load_refused board accepted] at performed
      cases performed
  | ok words =>
      obtain ⟨_, switched⟩ := board.restores_of_restore accepted
      rw [performed] at switched
      exact ⟨words, rfl, switched⟩

namespace Stream

/-- Guest memory with the bytes of a sound file. -/
def loaded (data : List UInt8) : Memory :=
  (Memory.zeros memoryBase data.length).write memoryBase data

theorem read_loaded {data : List UInt8} (fits : data.length ≤ 2 ^ 32) :
    (loaded data).read memoryBase data.length = data :=
  Memory.read_write fits fun _ inside => Memory.maps_zeros fits inside

def fresh (data : List UInt8) (period : Nat) : Board Queues :=
  (Board.powerOn (.closed (playbackCapacity period)) (loaded data) (.empty false) false).1

theorem rested_fresh (data : List UInt8) (period : Nat) : (fresh data period).Rested :=
  Board.rested_powerOn ..

/-- Armed right after power on, the card has the whole file to play. -/
theorem words_fresh_arm {data : List UInt8} (fits : data.length < 2 ^ 32) (period : Nat) :
    let armed := (fresh data period).arm .playback memoryBase (UInt32.ofNat data.length) 1
    armed.words.enabled .playback = true ∧ armed.words.get .playbackAddress = memoryBase ∧
      (armed.words.get .playbackRemaining).toNat = data.length := by
  obtain ⟨_, address, remaining⟩ := Board.arm_spec (rested_fresh data period).low .playback memoryBase
    (UInt32.ofNat data.length) 1
  refine ⟨(Board.enabled_arm ..).1, address, ?_⟩
  exact (congrArg UInt32.toNat remaining).trans (UInt32.toNat_ofNat_of_lt' fits)

/-- How the card was set going: it was armed to play everything, or restored from a snapshot. -/
def Started (store : Store) (data : List UInt8) (options : Options) (board : Board Queues) : Prop :=
  match options.loadState with
  | none => board = (fresh data options.period).arm .playback memoryBase (UInt32.ofNat data.length) 1
  | some path => ∃ snapshot words, store.read path = .ok snapshot ∧
      Snapshot.restore snapshot = .ok words ∧
      board = (fresh data options.period).withWords words

/-- A board with the bytes of a sound file in memory that has neither played nor heard anything. -/
structure Staged (data : List UInt8) (period : Nat) (board : Board Queues) : Prop where
  rested : board.Rested
  memory : board.memory = loaded data
  capacity : board.voices.capacity = playbackCapacity period

theorem staged_fresh (data : List UInt8) (period : Nat) : Staged data period (fresh data period) := by
  obtain ⟨_, _, memory, _, _, _, closed⟩ := Board.powerOn_spec (playbackCapacity period)
    (loaded data) (.empty false) false
  exact ⟨rested_fresh data period, memory, congrArg Queues.capacity closed⟩

theorem Staged.arm {data : List UInt8} {period : Nat} {start : Board Queues}
    (staged : Staged data period start) (channel : Channel) (address count control : UInt32) :
    Staged data period (start.arm channel address count control) := by
  obtain ⟨_, memory, _, _, voices⟩ :=
    Board.arm_frame staged.rested.low channel address count control
  refine ⟨staged.rested.arm channel address count control, memory.trans staged.memory, ?_⟩
  rw [voices]
  exact staged.capacity

theorem Staged.withWords {data : List UInt8} {period : Nat} {start : Board Queues}
    (staged : Staged data period start) (words : Bank) :
    Staged data period (start.withWords words) := by
  obtain ⟨_, low, taken, playback, capture⟩ := staged.rested
  refine ⟨⟨fun channel => ?_, low, taken, playback, capture⟩, staged.memory, staged.capacity⟩
  cases channel <;> rfl

theorem Started.staged {store : Store} {data : List UInt8} {options : Options}
    {board : Board Queues} (started : Started store data options board) :
    Staged data options.period board := by
  have fresh := staged_fresh data options.period
  unfold Started at started
  split at started
  · subst started
    exact fresh.arm ..
  · obtain ⟨_, words, _, _, rfl⟩ := started
    exact fresh.withWords words

def Saved (before : Store) (options : Options) (board : Board Queues) (after : Store) : Prop :=
  match options.saveState with
  | none => after = before
  | some path => before.write path board.device.save = .ok after

/-- The whole of a run and what is left in the queue after it. -/
def heard (run : Board.Run (List (List UInt8))) : List UInt8 :=
  run.host.reverse.flatten ++ run.board.voices.playback.toList

/-- The file is a sound file with these samples. -/
def Holds (store : Store) (path : String) (samples : List Int16) : Prop :=
  ∃ content, store.read path = .ok content ∧ decode path content = .ok samples

theorem Holds.unique {store : Store} {path : String} {samples other : List Int16}
    (here : Holds store path samples) (there : Holds store path other) : samples = other := by
  obtain ⟨content, found, decoded⟩ := here
  obtain ⟨content', found', decoded'⟩ := there
  rw [found] at found'
  cases found'
  rw [decoded] at decoded'
  exact Except.ok.inj decoded'

/-- A sound file has whole frames, and not too many of them. -/
theorem Holds.frames {store : Store} {path : String} {samples : List Int16}
    (holds : Holds store path samples) :
    samples.length % 2 = 0 ∧ 2 * samples.length < 2 ^ 32 := by
  obtain ⟨_, _, decoded⟩ := holds
  exact Wave.frames_of_decode decoded

theorem Holds.write {store after : Store} {path other : String} {samples : List Int16}
    {content : List UInt8} (holds : Holds store path samples)
    (written : store.write other content = .ok after) (apart : store.Apart path other) :
    Holds after path samples := by
  obtain ⟨found, read, decoded⟩ := holds
  exact ⟨found, Store.read_write_apart written apart read, decoded⟩

namespace Saved

variable {before after : Store} {options : Options} {board : Board Queues}

theorem apart (saved : Saved before options board after) {first second : String}
    (apart : before.Apart first second) : after.Apart first second := by
  unfold Saved at saved
  cases asked : options.saveState with
  | none =>
      rw [asked] at saved
      rwa [show after = before from saved]
  | some snapshot =>
      rw [asked] at saved
      exact apart.write saved

theorem holds (saved : Saved before options board after) {path : String} {samples : List Int16}
    (holds : Holds before path samples)
    (apart : ∀ snapshot, options.saveState = some snapshot → before.Apart path snapshot) :
    Holds after path samples := by
  unfold Saved at saved
  cases asked : options.saveState with
  | none =>
      rw [asked] at saved
      rwa [show after = before from saved]
  | some snapshot =>
      rw [asked] at saved
      exact holds.write saved (apart snapshot asked)

theorem usable (saved : Saved before options board after) {path : String}
    (usable : before.Usable path) : after.Usable path := by
  unfold Saved at saved
  cases asked : options.saveState with
  | none =>
      rw [asked] at saved
      rwa [show after = before from saved]
  | some snapshot =>
      rw [asked] at saved
      exact usable.write saved

end Saved

structure Played (input output : String) (options : Options) (before : Store) (summary : Summary)
    (after : Store) where
  samples : List Int16
  board : Board Queues
  middle : Store
  decoded : Holds before input samples
  nonempty : Sample.toBigEndian samples ≠ []
  started : Started before (Sample.toBigEndian samples) options board
  run : Board.Run (List (List UInt8))
  ran : run = board.run .playbackDone options.maxTicks (listen options.period) []
  saved : Saved before options run.board middle
  written : middle.write output (Wave.Sink.file layout (Sample.ofBigEndian (heard run))) = .ok after
  finished : (Sample.ofBigEndian (heard run)).length % 2 = 0
  summarized : summary = ⟨(heard run).length, run.outcome == .interrupt⟩

namespace Session

variable {before after : World}

theorem store_of_keep {actions : List Action} {result : Unit}
    (given : Gives (keep actions) before result after) : after.2 = before.2 := by
  rw [← gives_keep.mp given]

theorem gives_readSamples {path : String} {samples : List Int16} :
    Gives (readSamples path) before samples after ↔
      Holds before.2 path samples ∧ before = after := by
  refine gives_bind.trans ?_
  constructor
  · rintro ⟨content, middle, read, decoded⟩
    obtain ⟨found, rfl⟩ := gives_read.mp read
    obtain ⟨samples, rfl⟩ := gives_ofExcept.mp decoded
    exact ⟨⟨content, found, samples⟩, rfl⟩
  · rintro ⟨⟨content, found, decoded⟩, rfl⟩
    exact ⟨content, before, gives_read.mpr ⟨found, rfl⟩, gives_ofExcept.mpr ⟨decoded, rfl⟩⟩

theorem result_readSamples {store : Store} {path : String} {samples : List Int16}
    (holds : Holds store path samples) :
    (readSamples path).result store = (.ok samples, store) := by
  have given : Gives (readSamples path) ([], store) samples ([], store) :=
    gives_readSamples.mpr ⟨holds, rfl⟩
  exact given.result

theorem holds_of_result {store : Store} {path : String} {samples : List Int16}
    (decoded : ((readSamples path).result store).1 = .ok samples) : Holds store path samples := by
  obtain ⟨_, reading⟩ := gives_of_result decoded
  exact (gives_readSamples.mp reading).1

theorem of_writeSamples {path : String} {samples : List Int16} {result : Unit}
    (given : Gives (writeSamples path samples) before result after) :
    before.2.write path (Wave.Sink.file layout samples) = .ok after.2 ∧ samples.length % 2 = 0 := by
  obtain ⟨_, middle, written, finished⟩ := gives_bind.mp given
  obtain ⟨store, stored, rfl⟩ := gives_write.mp written
  by_cases whole : Wave.Sink.finished layout samples = true
  · rw [if_pos whole] at finished
    obtain ⟨_, rfl⟩ := gives_pure.mp finished
    exact ⟨stored, of_decide_eq_true whole⟩
  · rw [if_neg whole] at finished
    exact absurd finished not_gives_throw

theorem of_readGuestBytes {path : String} {data : List UInt8}
    (given : Gives (readGuestBytes path) before data after) :
    ∃ samples, Holds before.2 path samples ∧ data = Sample.toBigEndian samples ∧ data ≠ [] ∧
      before = after := by
  obtain ⟨samples, middle, read, judged⟩ := gives_bind.mp given
  obtain ⟨decoded, rfl⟩ := gives_readSamples.mp read
  dsimp only at judged
  split at judged
  · exact absurd judged not_gives_throw
  · next nonempty =>
    obtain ⟨rfl, rfl⟩ := gives_pure.mp judged
    exact ⟨samples, decoded, rfl, nonempty, rfl⟩

theorem of_boot {memory : Memory} {capacity : Nat} {board : Board Queues}
    (given : Gives (boot memory capacity) before board after) :
    board = (Board.powerOn (.closed capacity) memory (.empty false) false).1 ∧
      after.2 = before.2 := by
  obtain ⟨_, middle, kept, rest⟩ := gives_bind.mp given
  obtain ⟨rfl, rfl⟩ := gives_pure.mp rest
  exact ⟨rfl, store_of_keep kept⟩

theorem of_writeRegister {start board : Board Queues} {register : Register} {value : UInt32}
    (given : Gives (writeRegister start register value) before board after) :
    board = (start.busWrite register.offset value).1 ∧ after.2 = before.2 := by
  obtain ⟨_, middle, kept, rest⟩ := gives_bind.mp given
  obtain ⟨rfl, rfl⟩ := gives_pure.mp rest
  exact ⟨rfl, store_of_keep kept⟩

theorem of_arm {start board : Board Queues} {channel : Channel} {count : Nat}
    (given : Gives (arm start channel count) before board after) :
    board = start.arm channel memoryBase (UInt32.ofNat count) 1 ∧ after.2 = before.2 := by
  obtain ⟨first, _, addressed, given⟩ := gives_bind.mp given
  obtain ⟨second, _, counted, enabled⟩ := gives_bind.mp given
  obtain ⟨rfl, here⟩ := of_writeRegister addressed
  obtain ⟨rfl, there⟩ := of_writeRegister counted
  obtain ⟨rfl, last⟩ := of_writeRegister enabled
  refine ⟨?_, last.trans (there.trans here)⟩
  cases channel <;> rfl

theorem of_resume {start board : Board Queues} {path : String}
    (given : Gives (resume start path) before board after) :
    ∃ snapshot words, before.2.read path = .ok snapshot ∧ Snapshot.restore snapshot = .ok words ∧
      board = start.withWords words ∧ after.2 = before.2 := by
  obtain ⟨snapshot, middle, read, judged⟩ := gives_bind.mp given
  obtain ⟨found, rfl⟩ := gives_read.mp read
  split at judged
  · exact absurd judged not_gives_throw
  · next other actions restored =>
    obtain ⟨words, accepted, switched⟩ := Board.exists_of_load restored
    obtain ⟨_, kept, keeping, judged⟩ := gives_bind.mp judged
    obtain ⟨_, remarked, remarking, judged⟩ := gives_bind.mp judged
    obtain ⟨rfl, rfl⟩ := gives_pure.mp judged
    exact ⟨snapshot, words, found, accepted, switched,
      (store_of_keep remarking).trans (store_of_keep keeping)⟩

theorem of_remark_unless {α : Type} {condition : Bool} {notice : Notice} {result : α}
    {next : Unit → Session (StateM Store) α}
    (given : Gives (if condition = true then next () else remark notice >>= next) before result
      after) :
    ∃ middle, middle.2 = before.2 ∧ Gives (next ()) middle result after := by
  by_cases holds : condition = true
  · rw [if_pos holds] at given
    exact ⟨before, rfl, given⟩
  · rw [if_neg holds] at given
    obtain ⟨_, middle, remarked, given⟩ := gives_bind.mp given
    exact ⟨middle, store_of_keep remarked, given⟩

theorem of_conclude {η : Type} {run : Board.Run η} {options : Options} {completed : Bool}
    (given : Gives (conclude run options) before completed after) :
    completed = (run.outcome == .interrupt) ∧ Saved before.2 options run.board after.2 := by
  obtain ⟨middle, kept, given⟩ := of_remark_unless given
  dsimp only at given
  unfold Saved
  rw [← kept]
  cases asked : options.saveState with
  | none =>
      rw [asked] at given
      obtain ⟨rfl, rfl⟩ := gives_pure.mp given
      exact ⟨rfl, rfl⟩
  | some path =>
      rw [asked] at given
      obtain ⟨_, written, writing, given⟩ := gives_bind.mp given
      obtain ⟨store, stored, rfl⟩ := gives_write.mp writing
      obtain ⟨rfl, rfl⟩ := gives_pure.mp given
      exact ⟨rfl, stored⟩

theorem of_start {data : List UInt8} {options : Options} {α : Type} {result : α}
    {next : Board Queues → Session (StateM Store) α}
    (given : Gives (match options.loadState with
      | some path => resume (fresh data options.period) path >>= next
      | none => arm (fresh data options.period) .playback data.length >>= next) before result after) :
    ∃ board middle, Started before.2 data options board ∧ middle.2 = before.2 ∧
      Gives (next board) middle result after := by
  unfold Started
  cases asked : options.loadState with
  | none =>
      rw [asked] at given
      obtain ⟨board, middle, arming, given⟩ := gives_bind.mp given
      obtain ⟨armed, kept⟩ := of_arm arming
      exact ⟨board, middle, armed, kept, given⟩
  | some path =>
      rw [asked] at given
      obtain ⟨board, middle, resuming, given⟩ := gives_bind.mp given
      obtain ⟨snapshot, words, found, accepted, switched, kept⟩ := of_resume resuming
      exact ⟨board, middle, ⟨snapshot, words, found, accepted, switched⟩, kept, given⟩

/-- What playing went through. -/
theorem nonempty_played {input output : String} {options : Options} {summary : Summary}
    (given : Gives (play input output options) before summary after) :
    Nonempty (Played input output options before.2 summary after.2) := by
  obtain ⟨data, _, read, given⟩ := gives_bind.mp given
  obtain ⟨samples, decoded, rfl, nonempty, rfl⟩ := of_readGuestBytes read
  obtain ⟨start, booted, booting, given⟩ := gives_bind.mp given
  obtain ⟨rfl, bootedStore⟩ := of_boot booting
  obtain ⟨board, set, started, setStore, given⟩ := of_start given
  obtain ⟨_, ran, running, given⟩ := gives_bind.mp given
  obtain ⟨completed, saved, concluding, given⟩ := gives_bind.mp given
  obtain ⟨_, written, writing, given⟩ := gives_bind.mp given
  obtain ⟨rfl, rfl⟩ := gives_pure.mp given
  obtain ⟨rfl, saved⟩ := of_conclude concluding
  obtain ⟨stored, finished⟩ := of_writeSamples writing
  rw [bootedStore] at started
  rw [store_of_keep running, setStore, bootedStore] at saved
  exact ⟨⟨samples, board, _, decoded, nonempty, started, _, rfl, saved, stored, finished, rfl⟩⟩

end Session

end Stream

end SoundCard
