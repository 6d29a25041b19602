import SoundCard.Proofs.Delivery
import SoundCard.Proofs.Speaking

/-!
# What is recorded of a sound file

The sound is fed to the card by periods and stored in a window of memory that is as long as the sound.
How much was stored is told by what remains, so what is cut out of the window at the end is exactly
the beginning of the sound, as far as it was fed within the limit.
-/

set_option autoImplicit false

namespace SoundCard.Stream

/-- A card that is armed to record as many bytes as there are here. -/
def recorder (data : List UInt8) : Board Queues :=
  (Board.powerOn (.closed 0) (Memory.zeros memoryBase data.length) (.empty false) false).1.arm
    .capture memoryBase (UInt32.ofNat data.length) 1

def recording (data : List UInt8) (options : Options) : Board.Run (List UInt8) :=
  (recorder data).run .captureDone options.maxTicks (speak options.period) data

/-- How many bytes of a sound of this length are recorded. -/
def recorded (length : Nat) (options : Options) : Nat :=
  min length (options.maxTicks * max options.period 1)

section

variable {data : List UInt8}

/-- The run of a recording gathers the whole sound, or ends at its limit. -/
theorem recorder_spec (nonempty : data ≠ []) (fits : data.length < 2 ^ 32) (options : Options) :
    let stored := gathered data.length data.length (max options.period 1)
    ((recorder data).words.get .captureAddress = memoryBase ∧
        ((recorder data).words.get .captureRemaining).toNat = data.length ∧
        (recorder data).memory = Memory.zeros memoryBase data.length) ∧
      (recorder data).intake data options.period = stored ∧
      Board.Ended ((recorder data).Gathered data options.period)
        (fun ticks => stored ticks = data.length) options.maxTicks (recording data options) := by
  have positive := List.length_pos_iff.mpr nonempty
  have asked : (UInt32.ofNat data.length).toNat = data.length := UInt32.toNat_ofNat_of_lt' fits
  have unfinished : UInt32.ofNat data.length ≠ 0 := by
    intro zero
    rw [zero, UInt32.toNat_zero] at asked
    omega
  have enable : (1 : UInt32).toNat.testBit 0 = true := by decide
  obtain ⟨⟨cursor, remaining, kept, _⟩, intake, ended⟩ := Board.gathered_powerOn 0
    (Memory.zeros memoryBase data.length) (.empty false) false memoryBase
    (UInt32.ofNat data.length) unfinished enable options.maxTicks options.period data
  rw [asked] at intake ended
  exact ⟨⟨cursor, (congrArg UInt32.toNat remaining).trans asked, kept⟩, intake, ended⟩

/-- What remains after a recording, and what lies in the window. -/
theorem recording_spec (nonempty : data ≠ []) (fits : data.length < 2 ^ 32) (options : Options)
    {bytes : Nat} (counted : recorded data.length options = bytes) :
    let run := recording data options
    (run.board.words.get .captureRemaining).toNat = data.length - bytes ∧
      run.board.memory.peek? memoryBase bytes = some (data.take bytes) ∧
      (run.outcome = .interrupt ↔ bytes = data.length) := by
  intro run
  obtain ⟨⟨cursor, remaining, window⟩, intake, ended⟩ := recorder_spec nonempty fits options
  obtain ⟨stored, outcome⟩ := ended.amount_eq (fun _ _ => gathered_mono) gathered_le
  have limited : gathered data.length data.length (max options.period 1) options.maxTicks = bytes := by
    rw [← counted, gathered, recorded]
    omega
  have reached : (recorder data).Gathered data options.period run.ticks run.host run.board :=
    ended.reached
  have taken : (recorder data).intake data options.period run.ticks = bytes :=
    (congrFun intake run.ticks).trans (stored.trans limited)
  have length : (data.take bytes).length = bytes := taken ▸ Board.length_take_intake ..
  have bounded : (data.take bytes).length ≤ data.length := List.length_take_le' bytes data
  have left := reached.remaining
  have memory := reached.memory
  rw [limited] at outcome
  rw [taken, remaining] at left
  rw [taken, window, cursor] at memory
  refine ⟨left, ?_, outcome⟩
  rw [memory]
  refine (congrArg (Memory.peek? _ memoryBase) length.symm).trans ?_
  exact Memory.peek?_write_zeros (Nat.le_of_lt fits) (List.length_pos_iff.mpr nonempty) bounded

end

/-- What was recorded is cut out of memory between the end of the run and the writing of the sound. -/
theorem Session.ends_captured {run : Board.Run (List UInt8)} {options : Options} {output : String}
    {length bytes : Nat} {captured : List UInt8} {before after : Store}
    {result : Except Failure Summary}
    (counted : length - (run.board.device.registers.get .captureRemaining).toNat = bytes)
    (peeked : run.board.memory.peek? memoryBase bytes = some captured)
    (ends : Ends (delivery run options output (Sample.ofBigEndian captured) bytes) before result
      after) :
    Ends (do
      let completed ← conclude run options
      let stored := length - (run.board.device.registers.get .captureRemaining).toNat
      match run.board.memory.peek? memoryBase stored with
      | none => throw .notInMemory
      | some bytes =>
        writeSamples output (Sample.ofBigEndian bytes)
        return ⟨stored, completed⟩) before result after := by
  subst counted
  dsimp only
  rw [peeked]
  exact ends

/-- Recording comes down to the delivery of what lies in the window. -/
theorem result_record {store : Store} {input output : String} {options : Options}
    {samples : List Int16} (holds : Holds store input samples) (nonempty : samples ≠ [])
    {bytes : Nat} {captured : List UInt8}
    (counted : (Sample.toBigEndian samples).length - ((recording (Sample.toBigEndian samples)
      options).board.words.get .captureRemaining).toNat = bytes)
    (peeked : (recording (Sample.toBigEndian samples) options).board.memory.peek? memoryBase bytes =
      some captured) :
    (record input output options).result store =
      (Session.delivery (recording (Sample.toBigEndian samples) options) options output
        (Sample.ofBigEndian captured) bytes).result store := by
  obtain ⟨result, after, ends⟩ := Session.exists_ends_delivery
    (recording (Sample.toBigEndian samples) options) options output (Sample.ofBigEndian captured)
    bytes store
  rw [ends.result_eq]
  refine Session.Ends.result_eq ?_
  refine (Session.ends_readGuestBytes holds (Sample.toBigEndian_ne_nil nonempty)).bind ?_
  refine (Session.ends_boot _ _ store).bind ?_
  refine (Session.ends_arm _ _ _ store).bind ?_
  refine (Session.ends_keep _ store).bind ?_
  exact Session.ends_captured counted peeked ends

theorem delivered_record {store : Store} {input : String} {options : Options}
    {samples : List Int16} (holds : Holds store input samples) (nonempty : samples ≠ [])
    {bytes : Nat} (counted : recorded (2 * samples.length) options = bytes) (output : String) :
    Delivered store output options (samples.take (bytes / 2))
      ⟨bytes, decide (bytes = 2 * samples.length)⟩ ((record input output options).result store) := by
  have fits := holds.frames.2
  have small : 2 * (samples.take (bytes / 2)).length < 2 ^ 32 := by
    have short := List.length_take_le' (bytes / 2) samples
    omega
  have bounded : bytes ≤ 2 * samples.length := counted ▸ Nat.min_le_left ..
  rw [← Sample.length_toBigEndian] at fits counted bounded
  obtain ⟨remaining, peeked, outcome⟩ :=
    recording_spec (Sample.toBigEndian_ne_nil nonempty) fits options counted
  rw [Sample.length_toBigEndian] at outcome
  have completed : ((recording (Sample.toBigEndian samples) options).outcome == .interrupt) =
      decide (bytes = 2 * samples.length) :=
    Bool.eq_iff_iff.mpr (beq_iff_eq.trans (outcome.trans decide_eq_true_iff.symm))
  rw [result_record holds nonempty (by omega) peeked, Sample.ofBigEndian_take, ← completed]
  exact Session.delivered_delivery _ options output bytes small store

/-- Recording a sound file never leaves more to store than there was, nor stores outside of the memory.
Whenever it succeeds, the summary and the output tell the bytes that could be fed within the limit. It
succeeds if these are whole frames, and the output is the input if the limit lets everything be
recorded. -/
theorem recording_delivered (store : Store) (input output : String) (options : Options)
    (samples : List Int16) (decoded : ((readSamples input).result store).1 = .ok samples)
    (nonempty : samples ≠ []) :
    let data := Sample.toBigEndian samples
    let run := recording data options
    let ended := (record input output options).result store
    let bytes := min (2 * samples.length) (options.maxTicks * max options.period 1)
    (run.board.words.get .captureRemaining).toNat ≤ data.length ∧
      data.length - (run.board.words.get .captureRemaining).toNat = bytes ∧
      ended.1 ≠ .error .notInMemory ∧
      (∀ summary, ended.1 = .ok summary →
        summary = ⟨bytes, decide (bytes = 2 * samples.length)⟩ ∧
          ((readSamples output).result ended.2).1 = .ok (samples.take (bytes / 2))) ∧
      (Writable store output options → bytes % 4 = 0 →
        ended.1 = .ok ⟨bytes, decide (bytes = 2 * samples.length)⟩) ∧
      (Writable store output options →
        2 * samples.length ≤ options.maxTicks * max options.period 1 →
        ended.1 = .ok ⟨2 * samples.length, true⟩ ∧
          ((readSamples output).result ended.2).1 = .ok samples) := by
  intro data run ended bytes
  have holds := Session.holds_of_result decoded
  have fits := holds.frames.2
  have delivered : Delivered store output options (samples.take (bytes / 2))
      ⟨bytes, decide (bytes = 2 * samples.length)⟩ ended :=
    delivered_record holds nonempty rfl output
  have length : data.length = 2 * samples.length := Sample.length_toBigEndian samples
  have counted : recorded data.length options = bytes :=
    congrArg (min · (options.maxTicks * max options.period 1)) length
  have bounded : bytes ≤ data.length := counted ▸ Nat.min_le_left ..
  rw [← length] at fits
  have remaining :=
    (recording_spec (Sample.toBigEndian_ne_nil nonempty) fits options counted).1
  refine ⟨?_, ?_, delivered.backed, delivered.summarized, fun writable frames => ?_,
    fun writable enough => ?_⟩
  · exact Nat.le_trans (Nat.le_of_eq remaining) (Nat.sub_le ..)
  · exact (congrArg (data.length - ·) remaining).trans (Nat.sub_sub_self bounded)
  · have count : (samples.take (bytes / 2)).length = bytes / 2 :=
      List.length_take_of_le (by omega)
    exact delivered.accepted writable count frames
  · have delivered := delivered_record holds nonempty (Nat.min_eq_left enough) output
    rw [Nat.mul_div_cancel_left _ Nat.two_pos, List.take_length, decide_eq_true rfl] at delivered
    obtain ⟨accepted, readable⟩ := delivered.written writable
    exact ⟨accepted.trans (if_pos holds.frames.1), readable.trans (if_pos holds.frames.1)⟩

/-- Four samples, of which the limit lets two be recorded, and all of them byte by byte. -/
theorem recording_delivered_cut :
    let samples : List Int16 := [1, -2, 3, -4]
    let store : Store := ⟨[(["in"], .file (Wave.Sink.file layout samples))]⟩
    let cut := (record "in" "out" { period := 2, maxTicks := 2 }).result store
    let whole := (record "in" "out" { period := 0, maxTicks := 8 }).result store
    ((readSamples "in").result store).1 = .ok samples ∧ samples ≠ [] ∧
      (∀ options : Options, options.saveState = none → Writable store "out" options) ∧
      cut.1 = .ok ⟨4, false⟩ ∧ ((readSamples "out").result cut.2).1 = .ok [1, -2] ∧
      whole.1 = .ok ⟨8, true⟩ ∧ ((readSamples "out").result whole.2).1 = .ok samples := by
  intro samples store cut whole
  have decoded : ((readSamples "in").result store).1 = .ok samples :=
    Except.of_toOption (by decide +kernel)
  have nonempty : samples ≠ [] := by decide
  have usable : store.Usable "out" :=
    Store.usable_iff.mpr ⟨["out"], by decide +kernel, Except.of_toOption (by decide +kernel),
      by decide +kernel⟩
  have writable : ∀ options : Options, options.saveState = none → Writable store "out" options :=
    fun _ unsaved => ⟨usable, fun _ asked => nomatch unsaved.symm.trans asked⟩
  obtain ⟨_, _, _, summarized, accepted, _⟩ :=
    recording_delivered store "in" "out" { period := 2, maxTicks := 2 } samples decoded nonempty
  obtain ⟨_, _, _, _, _, complete⟩ :=
    recording_delivered store "in" "out" { period := 0, maxTicks := 8 } samples decoded nonempty
  have given : cut.1 = .ok ⟨4, false⟩ := accepted (writable _ rfl) (by decide)
  obtain ⟨all, same⟩ := complete (writable _ rfl) (by decide)
  have front := (summarized _ given).2
  exact ⟨decoded, nonempty, writable, given, front.trans (congrArg Except.ok (by decide)), all, same⟩

end SoundCard.Stream
