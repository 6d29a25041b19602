import SoundCard.Column.WordColumn
import SoundCard.Register.Bank

/-!
# Snapshots

The saved form of the card: the version of the layout and the eleven words, each as a column of
words, and nothing after them. A snapshot of a later layout can be read, but not restored.
-/

set_option autoImplicit false

namespace SoundCard

structure Snapshot where
  version : UInt32
  registers : Bank
  deriving DecidableEq

namespace Snapshot

def currentVersion : UInt32 := 1

inductive Refusal where
  | undecodable
  | unsupportedVersion (version : UInt32)
  deriving DecidableEq, Repr

def Refusal.message : Refusal → String
  | undecodable => "invalid snapshot encoding"
  | unsupportedVersion version =>
    s!"Unsupported AC97 snapshot version {version.toNat} (expected {currentVersion.toNat})"

def encode (snapshot : Snapshot) : List UInt8 :=
  WordColumn.encode [snapshot.version] ++ WordColumn.encode snapshot.registers.toWords

def decode? (input : List UInt8) : Option Snapshot := do
  let (version, input) ← WordColumn.decode? 1 input
  let (words, input) ← WordColumn.decode? Register.count input
  if input = [] then some ⟨version.headD 0, .ofWords words⟩ else none

/-- The registers to restore. The version is judged only after the whole input was read. -/
def restore (input : List UInt8) : Except Refusal Bank :=
  match decode? input with
  | none => .error .undecodable
  | some snapshot =>
    if snapshot.version = currentVersion then .ok snapshot.registers
    else .error (.unsupportedVersion snapshot.version)

end Snapshot

end SoundCard
