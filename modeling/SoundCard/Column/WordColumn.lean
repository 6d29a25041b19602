import SoundCard.Bytes.LittleEndian
import SoundCard.Column.ByteColumn

/-!
# Columns of words

A column of 32-bit words starts with a byte that tells how wide the values are stored and whether
they are counted from the least of them, which then follows as four bytes. Values that fit a byte
are stored as a column of bytes.
-/

set_option autoImplicit false

namespace SoundCard.WordColumn

inductive Width where
  | four
  | two
  | one
  deriving DecidableEq, Repr

namespace Width

def code : Width → Nat
  | four => 0
  | two => 1
  | one => 2

def ofCode? : Nat → Option Width
  | 0 => some four
  | 1 => some two
  | 2 => some one
  | _ => none

def forLargest (largest : Nat) : Width :=
  if largest ≤ 255 then one else if largest ≤ 65535 then two else four

end Width

def wide (width : Nat) (values : List UInt32) : List UInt8 :=
  values.flatMap fun value => LittleEndian.encode width value.toNat

def ofWide (width : Nat) : Nat → List UInt8 → List UInt32
  | 0, _ => []
  | count + 1, bytes =>
    UInt32.ofNat (LittleEndian.decode (bytes.take width)) :: ofWide width count (bytes.drop width)

def store (values : List UInt32) : Width → List UInt8
  | .four => wide 4 values
  | .two => wide 2 values
  | .one => ByteColumn.encode (values.map UInt32.toUInt8)

def load? (count : Nat) (input : List UInt8) : Width → Option (List UInt32 × List UInt8)
  | .four => (splitBytes? (4 * count) input).map fun (bytes, rest) => (ofWide 4 count bytes, rest)
  | .two => (splitBytes? (2 * count) input).map fun (bytes, rest) => (ofWide 2 count bytes, rest)
  | .one => (ByteColumn.decode? count input).map fun (bytes, rest) =>
    (bytes.map UInt8.toUInt32, rest)

/-- The column of the given values. Counting from the least value is worth its bytes only if it
makes the values narrower and there are more than five of them. -/
def encode (values : List UInt32) : List UInt8 :=
  let numbers := values.map UInt32.toNat
  let least := numbers.min?.getD 0
  let most := numbers.max?.getD 0
  let plain := Width.forLargest most
  let shifted := Width.forLargest (most - least)
  if plain.code < shifted.code ∧ 5 < values.length then
    UInt8.ofNat (2 * shifted.code - 1) :: LittleEndian.encode 4 least ++
      store (values.map fun value => value - UInt32.ofNat least) shifted
  else
    UInt8.ofNat (2 * plain.code) :: store values plain

/-- Reads the column of `count` values at the start of the input; also gives the rest of the
input. Values that are counted from the least one wrap around. -/
def decode? (count : Nat) (input : List UInt8) : Option (List UInt32 × List UInt8) := do
  let (kind, input) ← input.head?.map fun kind => (kind.toNat, input.tail)
  let width ← Width.ofCode? ((kind + 1) / 2)
  let (least, input) ←
    if kind % 2 = 1 then
      (splitBytes? 4 input).map fun (bytes, rest) =>
        (UInt32.ofNat (LittleEndian.decode bytes), rest)
    else some (0, input)
  let (values, input) ← load? count input width
  some (values.map (· + least), input)

end SoundCard.WordColumn
