/-!
# Samples and bytes

Samples are signed numbers of sixteen bits. The guest keeps each with its high byte first, a sound
file with its low byte first. A last byte without a partner is no sample and is dropped.
-/

set_option autoImplicit false

namespace SoundCard.Sample

def bits (sample : Int16) : Nat :=
  sample.toUInt16.toNat

def ofPair (low high : UInt8) : Int16 :=
  (UInt16.ofNat (low.toNat + 256 * high.toNat)).toInt16

def low (sample : Int16) : UInt8 :=
  UInt8.ofNat (bits sample)

def high (sample : Int16) : UInt8 :=
  UInt8.ofNat (bits sample / 256)

def toBigEndian (samples : List Int16) : List UInt8 :=
  samples.flatMap fun sample => [high sample, low sample]

def toLittleEndian (samples : List Int16) : List UInt8 :=
  samples.flatMap fun sample => [low sample, high sample]

/-- Joins the bytes in pairs, behind the samples in `done`, which stand in reverse. -/
def pairs (join : UInt8 → UInt8 → Int16) (done : List Int16) : List UInt8 → List Int16
  | first :: second :: rest => pairs join (join first second :: done) rest
  | _ => done.reverse

def ofBigEndian (bytes : List UInt8) : List Int16 :=
  pairs (fun first second => ofPair second first) [] bytes

def ofLittleEndian (bytes : List UInt8) : List Int16 :=
  pairs ofPair [] bytes

theorem pairs_eq (join : UInt8 → UInt8 → Int16) :
    ∀ (bytes : List UInt8) (done : List Int16),
      pairs join done bytes = done.reverse ++ pairs join [] bytes
  | [], done => by simp [pairs]
  | [_], done => by simp [pairs]
  | first :: second :: rest, done => by
    rw [pairs, pairs, pairs_eq join rest (join first second :: done),
      pairs_eq join rest [join first second]]
    simp

@[simp] theorem pairs_cons_cons (join : UInt8 → UInt8 → Int16) (first second : UInt8)
    (rest : List UInt8) :
    pairs join [] (first :: second :: rest) = join first second :: pairs join [] rest := by
  rw [pairs, pairs_eq]
  rfl

theorem ofPair_low_high (sample : Int16) : ofPair (low sample) (high sample) = sample := by
  have small : bits sample < 65536 := sample.toUInt16.toNat_lt
  have joined : UInt16.ofNat ((low sample).toNat + 256 * (high sample).toNat) = sample.toUInt16 := by
    apply UInt16.toNat_inj.mp
    rw [UInt16.toNat_ofNat', low, high, UInt8.toNat_ofNat', UInt8.toNat_ofNat']
    unfold bits at *
    omega
  rw [ofPair, joined]
  exact Int16.toInt16_toUInt16 sample

end SoundCard.Sample
