/-!
# Little endian numbers

A number as exactly `width` bytes, least significant first, and back. Both directions are total: bits
above the width are dropped when encoding, and decoding takes however many bytes it is given.
-/

set_option autoImplicit false

namespace SoundCard.LittleEndian

def encode : Nat → Nat → List UInt8
  | 0, _ => []
  | width + 1, value => UInt8.ofNat value :: encode width (value / 256)

def decode : List UInt8 → Nat
  | [] => 0
  | byte :: rest => byte.toNat + 256 * decode rest

@[simp] theorem length_encode (width value : Nat) : (encode width value).length = width := by
  induction width generalizing value with
  | zero => rfl
  | succ width ih => simp [encode, ih]

end SoundCard.LittleEndian
