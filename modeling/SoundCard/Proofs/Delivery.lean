import SoundCard.Proofs.Playback

/-!
# Delivering a sound file

Playing and recording end alike: a snapshot is saved if one is asked for, the samples are written, and
the summary is given. How a session ends does not depend on the notices that were kept before it. So
what a stream delivers is decided by its run and by the paths that it writes to, and where these can
be written only a last frame that is not whole is a failure.
-/

set_option autoImplicit false

namespace SoundCard.Stream

/-- Every file that a stream writes can be written, whatever it holds. -/
def Writable (store : Store) (output : String) (options : Options) : Prop :=
  store.Usable output ∧ ∀ path, options.saveState = some path → store.Usable path

/-- How a stream ends that writes these samples. It succeeds only with the summary and with an output
that reads back. Where everything can be written, a last frame that is not whole makes it fail, and
such an output does not read back; nothing else does. -/
structure Delivered (before : Store) (output : String) (options : Options) (samples : List Int16)
    (summary : Summary) (ended : Except Failure Summary × Store) : Prop where
  backed : ended.1 ≠ .error .notInMemory
  summarized : ∀ given, ended.1 = .ok given →
    given = summary ∧ ((readSamples output).result ended.2).1 = .ok samples
  written : Writable before output options →
    (ended.1 = if samples.length % 2 = 0 then .ok summary
      else .error (.cannotFinish .unfinishedFrame)) ∧
    ((readSamples output).result ended.2).1 = if samples.length % 2 = 0 then .ok samples
      else .error (.cannotOpen output (.malformed .dataNotFrames))

/-- A stream that delivers the samples of whole frames succeeds where everything can be written. -/
theorem Delivered.accepted {before : Store} {output : String} {options : Options}
    {samples : List Int16} {summary : Summary} {ended : Except Failure Summary × Store} {bytes : Nat}
    (delivered : Delivered before output options samples summary ended)
    (writable : Writable before output options) (length : samples.length = bytes / 2)
    (frames : bytes % Format.voice.frameBytes = 0) : ended.1 = .ok summary := by
  have whole : samples.length % 2 = 0 := by
    rw [Format.frameBytes_voice] at frames
    omega
  exact (delivered.written writable).1.trans (if_pos whole)

namespace Session

variable {α β : Type}

/-- Whatever notices were kept before, the session has this result in the first store and leaves the
second one. -/
def Ends (session : Session (StateM Store) α) (before : Store) (result : Except Failure α)
    (after : Store) : Prop :=
  ∀ notices, ∃ kept, session.outcome (notices, before) = (result, kept, after)

namespace Ends

variable {session : Session (StateM Store) α} {next : α → Session (StateM Store) β}
  {before middle after : Store}

theorem result_eq {result : Except Failure α} (ends : session.Ends before result after) :
    session.result before = (result, after) := by
  obtain ⟨kept, outcome⟩ := ends []
  rw [result_eq_outcome, outcome]

theorem bind {value : α} {result : Except Failure β} (here : session.Ends before (.ok value) middle)
    (there : (next value).Ends middle result after) :
    Ends (session >>= next) before result after := by
  intro notices
  obtain ⟨kept, first⟩ := here notices
  obtain ⟨later, second⟩ := there kept
  refine ⟨later, ?_⟩
  rw [outcome_bind, first]
  exact second

theorem bind_error {failure : Failure} (here : session.Ends before (.error failure) after) :
    Ends (session >>= next) before (.error failure) after := by
  intro notices
  obtain ⟨kept, first⟩ := here notices
  refine ⟨kept, ?_⟩
  rw [outcome_bind, first]

end Ends

variable {before after : Store}

theorem ends_pure (value : α) (store : Store) : Ends (pure value) store (.ok value) store :=
  fun notices => ⟨notices, rfl⟩

theorem ends_throw (failure : Failure) (store : Store) :
    Ends (throw failure : Session (StateM Store) α) store (.error failure) store :=
  fun notices => ⟨notices, rfl⟩

theorem ends_keep (actions : List Action) (store : Store) :
    Ends (keep actions) store (.ok ()) store :=
  fun _ => ⟨_, gives_keep.mpr rfl⟩

theorem ends_read {path : String} {failure : FileError → Failure} {content : List UInt8}
    (found : before.read path = .ok content) :
    Ends (read path failure) before (.ok content) before :=
  fun notices => ⟨notices, gives_read.mpr ⟨found, rfl⟩⟩

theorem ends_write {path : String} {content : List UInt8} {failure : FileError → Failure}
    (written : before.write path content = .ok after) :
    Ends (write path content failure) before (.ok ()) after :=
  fun notices => ⟨notices, gives_write.mpr ⟨after, written, rfl⟩⟩

theorem ends_write_refused {path : String} {content : List UInt8} {failure : FileError → Failure}
    {cause : FileError} (refused : before.write path content = .error cause) :
    Ends (write path content failure) before (.error (failure cause)) before := by
  intro notices
  refine ⟨notices, ?_⟩
  rw [outcome_write]
  dsimp only
  rw [refused]

theorem ends_readSamples {path : String} {samples : List Int16}
    (holds : Holds before path samples) : Ends (readSamples path) before (.ok samples) before :=
  fun notices => ⟨notices, gives_readSamples.mpr ⟨holds, rfl⟩⟩

theorem ends_readSamples_refused {path : String} {content : List UInt8} {failure : Failure}
    (found : before.read path = .ok content) (refused : decode path content = .error failure) :
    Ends (readSamples path) before (.error failure) before := by
  refine (ends_read found).bind ?_
  rw [refused]
  exact ends_throw _ _

/-- A written sound file is read back exactly if its frames are whole. -/
theorem result_readSamples_file {path : String} {samples : List Int16}
    (found : before.read path = .ok (Wave.Sink.file layout samples))
    (fits : 2 * samples.length < 2 ^ 32) :
    ((readSamples path).result before).1 =
      if samples.length % 2 = 0 then .ok samples
      else .error (.cannotOpen path (.malformed .dataNotFrames)) := by
  split
  · next whole =>
    rw [(ends_readSamples ⟨_, found, Wave.decode_file path whole fits⟩).result_eq]
  · next odd =>
    rw [(ends_readSamples_refused found (Wave.decode_file_unfinished path odd fits)).result_eq]

theorem ends_readGuestBytes {path : String} {samples : List Int16}
    (holds : Holds before path samples) (nonempty : Sample.toBigEndian samples ≠ []) :
    Ends (readGuestBytes path) before (.ok (Sample.toBigEndian samples)) before := by
  refine (ends_readSamples holds).bind ?_
  dsimp only
  rw [if_neg nonempty]
  exact ends_pure _ _

theorem ends_boot (memory : Memory) (capacity : Nat) (store : Store) :
    Ends (boot memory capacity) store
      (.ok (Board.powerOn (.closed capacity) memory (.empty false) false).1) store :=
  (ends_keep _ store).bind (ends_pure _ store)

theorem ends_writeRegister (board : Board Queues) (register : Register) (value : UInt32)
    (store : Store) :
    Ends (writeRegister board register value) store (.ok (board.busWrite register.offset value).1)
      store :=
  (ends_keep _ store).bind (ends_pure _ store)

theorem ends_arm (board : Board Queues) (channel : Channel) (count : Nat) (store : Store) :
    Ends (arm board channel count) store
      (.ok (board.arm channel memoryBase (UInt32.ofNat count) 1)) store := by
  have same : board.arm channel memoryBase (UInt32.ofNat count) 1 =
      (((board.busWrite channel.address.offset memoryBase).1.busWrite channel.remaining.offset
        (UInt32.ofNat count)).1.busWrite channel.control.offset 1).1 := by
    cases channel <;> rfl
  rw [same]
  refine (ends_writeRegister board channel.address memoryBase store).bind ?_
  refine (ends_writeRegister _ channel.remaining (UInt32.ofNat count) store).bind ?_
  exact ends_writeRegister _ channel.control 1 store

theorem ends_resume {board : Board Queues} {path : String} {snapshot : List UInt8} {words : Bank}
    (found : before.read path = .ok snapshot) (restored : Snapshot.restore snapshot = .ok words) :
    Ends (resume board path) before (.ok (board.withWords words)) before := by
  obtain ⟨_, switched⟩ := board.restores_of_restore restored
  refine (ends_read found).bind ?_
  cases loaded : board.load snapshot with
  | error refusal =>
      have refused := board.perform_load_restored restored
      rw [Board.perform, loaded] at refused
      cases refused
  | ok result =>
      obtain ⟨after, actions⟩ := result
      rw [Board.perform, loaded] at switched
      rw [← show after = board.withWords words from switched]
      refine (ends_keep _ _).bind ?_
      refine Ends.bind (ends_keep _ _) ?_
      exact ends_pure _ _

theorem ends_start {data : List UInt8} {options : Options} {board : Board Queues}
    {result : Except Failure α} {next : Board Queues → Session (StateM Store) α}
    (started : Started before data options board) (ends : Ends (next board) before result after) :
    Ends (match options.loadState with
      | some path => resume (fresh data options.period) path >>= next
      | none => arm (fresh data options.period) .playback data.length >>= next) before result
      after := by
  unfold Started at started
  split at started
  · next unasked =>
    rw [unasked]
    subst started
    exact (ends_arm _ _ _ _).bind ends
  · next path asked =>
    obtain ⟨snapshot, words, found, restored, rfl⟩ := started
    rw [asked]
    exact (ends_resume found restored).bind ends

/-!
## What is delivered
-/

/-- The end of every stream: a snapshot if one is asked for, then the samples and the summary. -/
def delivery {η : Type} (run : Board.Run η) (options : Options) (output : String)
    (samples : List Int16) (bytes : Nat) : Session (StateM Store) Summary := do
  let completed ← conclude run options
  writeSamples output samples
  return ⟨bytes, completed⟩

section

variable {η : Type} {run : Board.Run η} {options : Options}

theorem ends_remark_unless {condition : Bool} {notice : Notice} {result : Except Failure α}
    {next : Unit → Session (StateM Store) α} (ends : Ends (next ()) before result after) :
    Ends (if condition = true then next () else remark notice >>= next) before result after := by
  split
  · exact ends
  · exact (ends_keep _ _).bind ends

theorem ends_conclude (saved : Saved before options run.board after) :
    Ends (conclude run options) before (.ok (run.outcome == .interrupt)) after := by
  refine ends_remark_unless ?_
  dsimp only
  unfold Saved at saved
  split at saved
  · next unasked =>
    rw [unasked, saved]
    exact ends_pure _ _
  · next path asked =>
    rw [asked]
    exact (ends_write saved).bind (ends_pure _ _)

theorem ends_conclude_refused {path : String} (asked : options.saveState = some path)
    {cause : FileError} (refused : before.write path run.board.device.save = .error cause) :
    Ends (conclude run options) before (.error (.cannotWriteSnapshot path cause)) before := by
  refine ends_remark_unless ?_
  dsimp only
  rw [asked]
  exact (ends_write_refused refused).bind_error

theorem ends_writeSamples {path : String} {samples : List Int16}
    (written : before.write path (Wave.Sink.file layout samples) = .ok after) :
    Ends (writeSamples path samples) before
      (if samples.length % 2 = 0 then .ok () else .error (.cannotFinish .unfinishedFrame)) after := by
  refine (ends_write written).bind ?_
  by_cases whole : samples.length % 2 = 0
  · have finished : Wave.Sink.finished layout samples = true := decide_eq_true whole
    rw [if_pos finished, if_pos whole]
    exact ends_pure _ _
  · have unfinished : Wave.Sink.finished layout samples ≠ true :=
      fun finished => whole (of_decide_eq_true finished)
    rw [if_neg unfinished, if_neg whole]
    exact ends_throw _ _

theorem ends_writeSamples_refused {path : String} {samples : List Int16} {cause : FileError}
    (refused : before.write path (Wave.Sink.file layout samples) = .error cause) :
    Ends (writeSamples path samples) before (.error (.cannotCreate path (.access cause))) before :=
  (ends_write_refused refused).bind_error

variable {output : String} {samples : List Int16} {bytes : Nat}

/-- Where both paths can be written, a delivery fails only if the last frame is not whole. -/
theorem ends_delivery {middle : Store} (saved : Saved before options run.board middle)
    (written : middle.write output (Wave.Sink.file layout samples) = .ok after) :
    Ends (delivery run options output samples bytes) before
      (if samples.length % 2 = 0 then .ok ⟨bytes, run.outcome == .interrupt⟩
        else .error (.cannotFinish .unfinishedFrame)) after := by
  have writing := ends_writeSamples written
  refine (ends_conclude saved).bind ?_
  split
  · next whole =>
    rw [if_pos whole] at writing
    exact writing.bind (ends_pure _ _)
  · next odd =>
    rw [if_neg odd] at writing
    exact writing.bind_error

theorem saved_or_refused (options : Options) (board : Board Queues) (before : Store) :
    (∃ after, Saved before options board after) ∨
      ∃ path cause, options.saveState = some path ∧
        before.write path board.device.save = .error cause := by
  unfold Saved
  cases asked : options.saveState with
  | none => exact .inl ⟨before, rfl⟩
  | some path =>
      cases written : before.write path board.device.save with
      | ok after => exact .inl ⟨after, written⟩
      | error cause => exact .inr ⟨path, cause, rfl, written⟩

theorem delivered_delivery (run : Board.Run η) (options : Options) (output : String)
    (bytes : Nat) (fits : 2 * samples.length < 2 ^ 32) (before : Store) :
    Delivered before output options samples ⟨bytes, run.outcome == .interrupt⟩
      ((delivery run options output samples bytes).result before) := by
  rcases saved_or_refused options run.board before with
    ⟨middle, saved⟩ | ⟨path, cause, asked, refused⟩
  · cases written : middle.write output (Wave.Sink.file layout samples) with
    | ok after =>
        have readable := result_readSamples_file (Store.read_write_self written) fits
        rw [(ends_delivery saved written).result_eq]
        refine ⟨?_, fun summary given => ?_, fun _ => ⟨rfl, readable⟩⟩
        · dsimp only
          split <;> exact nofun
        · dsimp only at given
          split at given
          · next whole =>
            cases given
            exact ⟨rfl, readable.trans (if_pos whole)⟩
          · cases given
    | error cause =>
        have ends : Ends (delivery run options output samples bytes) before _ middle :=
          (ends_conclude saved).bind (ends_writeSamples_refused written).bind_error
        rw [ends.result_eq]
        refine ⟨nofun, nofun, fun writable => ?_⟩
        obtain ⟨_, accepted⟩ := saved.usable writable.1 (Wave.Sink.file layout samples)
        cases written.symm.trans accepted
  · have ends : Ends (delivery run options output samples bytes) before _ before :=
      (ends_conclude_refused asked refused).bind_error
    rw [ends.result_eq]
    refine ⟨nofun, nofun, fun writable => ?_⟩
    obtain ⟨_, accepted⟩ := writable.2 path asked run.board.device.save
    cases refused.symm.trans accepted

/-- Every delivery ends, whatever notices were kept. -/
theorem exists_ends_delivery (run : Board.Run η) (options : Options) (output : String)
    (samples : List Int16) (bytes : Nat) (before : Store) :
    ∃ result after, Ends (delivery run options output samples bytes) before result after := by
  rcases saved_or_refused options run.board before with
    ⟨middle, saved⟩ | ⟨path, cause, asked, refused⟩
  · cases written : middle.write output (Wave.Sink.file layout samples) with
    | ok after => exact ⟨_, _, ends_delivery saved written⟩
    | error cause =>
        exact ⟨_, _, (ends_conclude saved).bind (ends_writeSamples_refused written).bind_error⟩
  · exact ⟨_, _, (ends_conclude_refused asked refused).bind_error⟩

end

end Session

end SoundCard.Stream
