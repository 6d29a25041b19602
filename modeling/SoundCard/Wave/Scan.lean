import SoundCard.Bytes.LittleEndian
import SoundCard.Wave.Fault

/-!
# Scanning a sound file

A scan reads from the front of the bytes that are left and fails when they run out.
-/

set_option autoImplicit false

namespace SoundCard.Wave

abbrev Scan (α : Type) : Type := StateT (List UInt8) (Except Fault) α

namespace Scan

def bytes (count : Nat) : Scan (List UInt8) := fun input =>
  let (taken, rest) := input.splitAt count
  if taken.length < count then .error .truncated else .ok (taken, rest)

def number (width : Nat) : Scan Nat := do
  return LittleEndian.decode (← bytes width)

def require (condition : Bool) (defect : Defect) : Scan Unit :=
  if condition then pure () else throw (.malformed defect)

end Scan

end SoundCard.Wave
