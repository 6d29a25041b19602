import SoundCard.Proofs.Recording
import SoundCard.Proofs.Rendering

/-!
# When the ticks run out

A stream stops between any two bytes, but a sound file consists of frames of four. Half a sample at the
end is dropped. Half a frame is written, but then it fails the stream, and the file that was written
does not read back. So a stream that ran out of ticks leaves a beginning of its input only if the
period and the limit happen to stop it between two frames.
-/

set_option autoImplicit false

namespace SoundCard.Stream

/-- What a stream of these samples comes to that stopped after some bytes. -/
def Stopped (output : String) (samples : List Int16) (bytes : Nat)
    (ended : Except Failure Summary × Store) : Prop :=
  if bytes / 2 % 2 = 0 then
    ended.1 = .ok ⟨bytes, decide (bytes = 2 * samples.length)⟩ ∧
      ((readSamples output).result ended.2).1 = .ok (samples.take (bytes / 2))
  else
    ended.1 = .error (.cannotFinish .unfinishedFrame) ∧
      ((readSamples output).result ended.2).1 =
        .error (.cannotOpen output (.malformed .dataNotFrames))

/-- A delivered beginning of the samples, of which no more were delivered than there are. -/
theorem Delivered.stopped {store : Store} {output : String} {options : Options}
    {samples : List Int16} {bytes : Nat} {ended : Except Failure Summary × Store}
    (delivered : Delivered store output options (samples.take (bytes / 2))
      ⟨bytes, decide (bytes = 2 * samples.length)⟩ ended)
    (writable : Writable store output options) (bounded : bytes ≤ 2 * samples.length) :
    Stopped output samples bytes ended := by
  have length : (samples.take (bytes / 2)).length = bytes / 2 :=
    List.length_take_of_le (by omega)
  obtain ⟨given, read⟩ := delivered.written writable
  rw [length] at given read
  unfold Stopped
  split
  · next whole =>
    rw [if_pos whole] at given read
    exact ⟨given, read⟩
  · next half =>
    rw [if_neg half] at given read
    exact ⟨given, read⟩

/-- Where everything can be written, playing a file from its start and recording it give a beginning
of it if they are stopped between two frames, and otherwise fail with a file that cannot be read. -/
theorem stream_stopped (store : Store) (input output : String) (options : Options)
    (samples : List Int16) (decoded : ((readSamples input).result store).1 = .ok samples)
    (nonempty : samples ≠ []) (writable : Writable store output options) :
    (options.loadState = none →
        Stopped output samples ((Origin.whole samples).bytes options.period options.maxTicks)
          ((play input output options).result store)) ∧
      Stopped output samples (min (2 * samples.length) (options.maxTicks * max options.period 1))
        ((record input output options).result store) := by
  have holds := Session.holds_of_result decoded
  refine ⟨fun unloaded => ?_, ?_⟩
  · exact (delivered_play_whole holds nonempty unloaded rfl output).stopped writable
      (Origin.bytes_le ..)
  · exact (delivered_record holds nonempty rfl output).stopped writable (Nat.min_le_left ..)

/-- Ten of sixteen bytes are two frames and a half, which neither stream delivers. -/
theorem stream_stopped_within_frame :
    let samples := Sample.ofLittleEndian ((List.range 16).map fun index => UInt8.ofNat (5 * index + 1))
    let store : Store := ⟨[(["in.wav"], .file (Wave.Sink.file layout samples))]⟩
    let played := (play "in.wav" "out.wav" { period := 2, maxTicks := 2 }).result store
    let recorded := (record "in.wav" "out.wav" { period := 2, maxTicks := 5 }).result store
    ((readSamples "in.wav").result store).1 = .ok samples ∧ samples ≠ [] ∧
      Writable store "out.wav" { period := 2, maxTicks := 2 } ∧
      played.1 = .error (.cannotFinish .unfinishedFrame) ∧
      recorded.1 = .error (.cannotFinish .unfinishedFrame) := by
  intro samples store played recorded
  have decoded : ((readSamples "in.wav").result store).1 = .ok samples :=
    Except.of_toOption (by decide +kernel)
  have nonempty : samples ≠ [] := by decide
  have usable : store.Usable "out.wav" :=
    Store.usable_iff.mpr ⟨["out.wav"], by decide +kernel, Except.of_toOption (by decide +kernel),
      by decide +kernel⟩
  have playing := (stream_stopped store "in.wav" "out.wav" { period := 2, maxTicks := 2 } samples
    decoded nonempty ⟨usable, nofun⟩).1 rfl
  have recording := (stream_stopped store "in.wav" "out.wav" { period := 2, maxTicks := 5 } samples
    decoded nonempty ⟨usable, nofun⟩).2
  have played : Stopped "out.wav" samples 10 played := playing
  have recorded : Stopped "out.wav" samples 10 recorded := recording
  exact ⟨decoded, nonempty, ⟨usable, nofun⟩, played.1, recorded.1⟩

/-- So not every stream that ran out of ticks leaves something to use. -/
theorem not_forall_stopped_readable :
    ¬∀ (store : Store) (input output : String) (options : Options) (samples : List Int16),
      ((readSamples input).result store).1 = .ok samples → samples ≠ [] →
      options.loadState = none → store.Apart input output → Writable store output options →
      ∃ summary front,
        ((play input output options).result store).1 = .ok summary ∧
        ((readSamples output).result ((play input output options).result store).2).1 = .ok front ∧
        front <+: samples := by
  intro readable
  let samples := Sample.ofLittleEndian ((List.range 16).map fun index => UInt8.ofNat (5 * index + 1))
  let store : Store := ⟨[(["in.wav"], .file (Wave.Sink.file layout samples))]⟩
  let options : Options := { period := 2, maxTicks := 2 }
  have decoded : ((readSamples "in.wav").result store).1 = .ok samples :=
    Except.of_toOption (by decide +kernel)
  have usable : store.Usable "out.wav" :=
    Store.usable_iff.mpr ⟨["out.wav"], by decide +kernel, Except.of_toOption (by decide +kernel),
      by decide +kernel⟩
  obtain ⟨summary, _, played, _⟩ := readable store "in.wav" "out.wav" options samples decoded
    (by decide) rfl (by decide +kernel) ⟨usable, nofun⟩
  have failed : ((play "in.wav" "out.wav" options).result store).1.toOption = none := by
    decide +kernel
  rw [played] at failed
  cases failed

end SoundCard.Stream
