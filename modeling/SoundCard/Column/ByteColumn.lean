import SoundCard.Column.Packing

/-!
# Columns of bytes

A column holds a known number of values. One or two values stand as they are. A longer column starts
with a byte that tells how the values are packed and whether they are counted from the least of
them, which then follows.
-/

set_option autoImplicit false

namespace SoundCard

def splitBytes? (count : Nat) (bytes : List UInt8) : Option (List UInt8 × List UInt8) :=
  if count ≤ bytes.length then some (bytes.splitAt count) else none

namespace ByteColumn

/-- The column of the given values. Counting from the least value is worth its byte only if it
makes the packing denser and there are more than five values. -/
def encode (values : List UInt8) : List UInt8 :=
  if values.length ≤ 2 then
    values
  else
    let numbers := values.map UInt8.toNat
    let least := numbers.min?.getD 0
    let most := numbers.max?.getD 0
    let plain := Packing.forLargest most
    let shifted := Packing.forLargest (most - least)
    if plain.code < shifted.code ∧ 5 < values.length then
      UInt8.ofNat (2 * shifted.code - 1) :: UInt8.ofNat least ::
        shifted.pack (values.map fun value => value - UInt8.ofNat least)
    else
      UInt8.ofNat (2 * plain.code) :: plain.pack values

/-- Reads the column of `count` values at the start of the input; also gives the rest of the
input. Values that are counted from the least one wrap around. -/
def decode? (count : Nat) (input : List UInt8) : Option (List UInt8 × List UInt8) :=
  if count ≤ 2 then
    splitBytes? count input
  else do
    let (kind, input) ← input.head?.map fun kind => (kind.toNat, input.tail)
    let packing ← Packing.ofCode? ((kind + 1) / 2)
    let (least, input) ← if kind % 2 = 1 then input.head?.map fun least => (least, input.tail)
      else some (0, input)
    let (packed, input) ← splitBytes? (packing.size count) input
    some ((packing.unpack count packed).map (· + least), input)

end ByteColumn

end SoundCard
