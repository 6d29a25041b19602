import SoundCard.Wave.Scan

/-!
# The format chunk

The format chunk of a sound file says how its samples are laid out. Several of its numbers repeat
each other and are checked against each other in a fixed order, so the first contradiction decides
which defect is reported.
-/

set_option autoImplicit false

namespace SoundCard.Wave

inductive Kind where
  | integer
  | float
  deriving DecidableEq, Repr

structure Spec where
  channels : Nat
  rate : Nat
  bits : Nat
  kind : Kind
  deriving DecidableEq, Repr

structure Layout where
  spec : Spec
  container : Nat
  deriving DecidableEq, Repr

namespace Layout

def integerIdentifier : List UInt8 :=
  [0x01, 0x00, 0x00, 0x00, 0x00, 0x00, 0x10, 0x00, 0x80, 0x00, 0x00, 0xaa, 0x00, 0x38, 0x9b, 0x71]

def floatIdentifier : List UInt8 :=
  0x03 :: integerIdentifier.tail

def scanInteger (length : Nat) (layout : Layout) : Scan Layout := do
  Scan.require (length == 16 || length == 18 || length == 40) .formatSize
  if length ≠ 16 then
    let _ ← Scan.bytes 2
    Scan.require (layout.spec.bits == 8 || layout.spec.bits == 16 || layout.spec.bits == 24)
      .extendedBits
  if length = 40 then
    let _ ← Scan.bytes 22
  return layout

def scanFloat (length : Nat) (layout : Layout) : Scan Layout := do
  Scan.require (length == 16 || length == 18) .formatSize
  if length = 18 then
    let extension ← Scan.number 2
    Scan.require (extension == 0) .floatExtension
  Scan.require (layout.spec.bits == 32) .floatBits
  return { layout with spec := { layout.spec with kind := .float } }

/-- The rest of an extended chunk. It may name a number of valid bits, which then replaces the
number of bits; what follows the identifier is left unread. -/
def scanExtended (length : Nat) (layout : Layout) : Scan Layout := do
  Scan.require (40 ≤ length) .formatSize
  let extension ← Scan.number 2
  Scan.require (extension == 22) .extensionSize
  let valid ← Scan.number 2
  let _ ← Scan.bytes 4
  let identifier ← Scan.bytes 16
  let bits := if valid = 0 then layout.spec.bits else valid
  if identifier = integerIdentifier then
    return { layout with spec := { layout.spec with bits, kind := .integer } }
  else if identifier = floatIdentifier then
    return { layout with spec := { layout.spec with bits, kind := .float } }
  else
    throw .unsupported

def scan (length : Nat) : Scan Layout := do
  Scan.require (16 ≤ length) .formatTooShort
  let tag ← Scan.number 2
  let channels ← Scan.number 2
  let rate ← Scan.number 4
  let byteRate ← Scan.number 4
  let frame ← Scan.number 2
  let bits ← Scan.number 2
  Scan.require (channels ≠ 0) .noChannels
  let container := frame / channels
  Scan.require (8 * container < UInt16.size && bits ≤ 8 * container) .sampleTooLarge
  Scan.require (byteRate == frame * rate) .inconsistentRates
  Scan.require (bits % 8 == 0) .oddBits
  Scan.require (bits ≠ 0) .noBits
  let layout : Layout := ⟨⟨channels, rate, bits, .integer⟩, container⟩
  match tag with
  | 0x0001 => scanInteger length layout
  | 0x0003 => scanFloat length layout
  | 0xfffe => scanExtended length layout
  | _ => throw .unsupported

end Layout

end SoundCard.Wave
