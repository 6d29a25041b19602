import SoundCard.Notice

/-!
# Sound backends

What the card needs of the sound system of the host: two voices that can be switched, one that takes
bytes and one that gives them. The backend decides how many bytes it takes or gives. Nothing is
assumed of its answers: they may be short, and they may even be larger than what was offered, so
whoever asks has to cap them.
-/

set_option autoImplicit false

namespace SoundCard

structure Fill where
  stored : List UInt8
  answer : Nat
  deriving DecidableEq

/-- The buffer after the fill. Only its first `room` bytes were offered to the backend, and what it
did not overwrite stays as it was. -/
def Fill.into (fill : Fill) (room : Nat) (buffer : List UInt8) : List UInt8 :=
  let written := fill.stored.take room
  written ++ buffer.drop written.length

class Backend (σ : Type) where
  openVoices (state : σ) (card : String) (format : Format) : σ × List Notice
  setActive (state : σ) (channel : Channel) (active : Bool) : σ × List Notice
  /-- Offers bytes to the playback voice. The answer says how many it took from the front. -/
  play (state : σ) (bytes : List UInt8) : Nat × σ
  record (state : σ) (room : Nat) : Fill × σ

@[simp] theorem Fill.length_into {fill : Fill} {room : Nat} {buffer : List UInt8}
    (fits : room ≤ buffer.length) : (fill.into room buffer).length = buffer.length := by
  simp only [Fill.into, List.length_append, List.length_drop, List.length_take]
  omega

end SoundCard
