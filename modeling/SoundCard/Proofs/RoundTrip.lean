import SoundCard.Proofs.Delivery

/-!
# There and back

Samples come back from a sound file and from the bytes of the guest. The other way round, bytes come back
from the samples that they make, except for half a sample at the end. So bytes may be taken in portions,
as long as no portion but the last one ends within a sample.
-/

set_option autoImplicit false

namespace SoundCard

namespace Sample

theorem bits_ofPair (first second : UInt8) :
    bits (ofPair first second) = first.toNat + 256 * second.toNat := by
  have firstSmall := first.toNat_lt
  have secondSmall := second.toNat_lt
  rw [bits, ofPair, UInt16.toUInt16_toInt16, UInt16.toNat_ofNat']
  omega

theorem low_ofPair (first second : UInt8) : low (ofPair first second) = first := by
  have small := first.toNat_lt
  apply UInt8.toNat_inj.mp
  rw [low, bits_ofPair, UInt8.toNat_ofNat']
  omega

theorem high_ofPair (first second : UInt8) : high (ofPair first second) = second := by
  have firstSmall := first.toNat_lt
  have secondSmall := second.toNat_lt
  apply UInt8.toNat_inj.mp
  rw [high, bits_ofPair, UInt8.toNat_ofNat']
  omega

/-- Joined bytes come apart again, as far as they make whole samples. -/
theorem flatMap_pairs {join : UInt8 → UInt8 → Int16} {first second : Int16 → UInt8}
    (parted : ∀ left right, first (join left right) = left ∧ second (join left right) = right) :
    ∀ bytes : List UInt8, (pairs join [] bytes).flatMap (fun sample => [first sample, second sample]) =
      bytes.take (2 * (bytes.length / 2))
  | [] => rfl
  | [_] => by simp [pairs]
  | left :: right :: rest => by
    have longer : 2 * ((rest.length + 2) / 2) = 2 * (rest.length / 2) + 2 := by omega
    simp [flatMap_pairs parted rest, parted, longer]

theorem take_whole (bytes : List UInt8) :
    bytes.take (2 * (bytes.length / 2)) =
      if bytes.length % 2 = 1 then bytes.dropLast else bytes := by
  split
  · next odd =>
    rw [List.dropLast_eq_take]
    congr 1
    omega
  · next even => exact List.take_of_length_le (by omega)

theorem toBigEndian_ofBigEndian (bytes : List UInt8) :
    toBigEndian (ofBigEndian bytes) =
      if bytes.length % 2 = 1 then bytes.dropLast else bytes := by
  refine (flatMap_pairs (fun left right => ?_) bytes).trans (take_whole bytes)
  exact ⟨high_ofPair right left, low_ofPair right left⟩

end Sample

namespace Stream

/-- What comes of writing samples to a path that can be written. -/
theorem result_writeSamples {store : Store} {path : String} {samples : List Int16}
    (fits : 2 * samples.length < 2 ^ 32) (usable : store.Usable path) :
    let written := (writeSamples path samples).result store
    if samples.length % 2 = 0 then
      written.1 = .ok () ∧ ((readSamples path).result written.2).1 = .ok samples
    else written.1 = .error (.cannotFinish .unfinishedFrame) := by
  obtain ⟨after, written⟩ := usable (Wave.Sink.file layout samples)
  have readable := Session.result_readSamples_file (Store.read_write_self written) fits
  dsimp only
  rw [(Session.ends_writeSamples written).result_eq]
  split
  · next whole => exact ⟨rfl, readable.trans (if_pos whole)⟩
  · rfl

/-- Samples come back from the file that they were written to, if they are whole frames, and from the
bytes of the guest. Bytes come back from samples up to the last one without a partner, and samples can be
made of bytes in portions. -/
theorem samples_preserved (store : Store) (path : String) (samples : List Int16)
    (fits : 2 * samples.length + 44 < 2 ^ 32) (usable : store.Usable path) :
    (let written := (writeSamples path samples).result store
      if samples.length % 2 = 0 then
        written.1 = .ok () ∧ ((readSamples path).result written.2).1 = .ok samples
      else written.1 = .error (.cannotFinish .unfinishedFrame)) ∧
      (∀ sound : List Int16, Sample.ofBigEndian (Sample.toBigEndian sound) = sound) ∧
      (∀ bytes : List UInt8, Sample.toBigEndian (Sample.ofBigEndian bytes) =
        if bytes.length % 2 = 1 then bytes.dropLast else bytes) ∧
      ∀ front rest : List UInt8, front.length % 2 = 0 →
        Sample.ofBigEndian (front ++ rest) = Sample.ofBigEndian front ++ Sample.ofBigEndian rest :=
  ⟨result_writeSamples (by omega) usable, Sample.ofBigEndian_toBigEndian,
    Sample.toBigEndian_ofBigEndian, fun _ rest even => Sample.ofBigEndian_append even rest⟩

/-- One frame, then half a frame more. -/
theorem samples_preserved_uneven :
    let store : Store := ⟨[]⟩
    let whole := (writeSamples "out.wav" [-2, 258]).result store
    let uneven := (writeSamples "out.wav" [-2, 258, 7]).result store
    store.Usable "out.wav" ∧ whole.1 = .ok () ∧
      ((readSamples "out.wav").result whole.2).1 = .ok [-2, 258] ∧
      uneven.1 = .error (.cannotFinish .unfinishedFrame) ∧
      Sample.toBigEndian (Sample.ofBigEndian [255, 254, 1]) = [255, 254] := by
  intro store whole uneven
  have usable : store.Usable "out.wav" :=
    Store.usable_iff.mpr ⟨["out.wav"], by decide +kernel, Except.of_toOption (by decide +kernel),
      by decide +kernel⟩
  obtain ⟨kept, _, parted, _⟩ := samples_preserved store "out.wav" [-2, 258] (by decide) usable
  obtain ⟨refused, _⟩ := samples_preserved store "out.wav" [-2, 258, 7] (by decide) usable
  exact ⟨usable, kept.1, kept.2, refused, parted [255, 254, 1]⟩

end Stream

end SoundCard
