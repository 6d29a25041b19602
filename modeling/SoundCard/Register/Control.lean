import SoundCard.Line

/-!
# Control words

The bits of the codec command word and of the channel control words. All other bits are kept as
they were written and have no function.
-/

set_option autoImplicit false

namespace SoundCard

/-- The codec command word. Bit 0 requests a transfer and clears itself; bit 1 tells a command
to the codec from a reply of it. -/
structure CodecControl where
  word : UInt32
  deriving DecidableEq, Repr

namespace CodecControl

def requestEnable (control : CodecControl) : Bool :=
  control.word.toNat.testBit 0

def write (control : CodecControl) : Bool :=
  control.word.toNat.testBit 1

def rest (control : CodecControl) : UInt32 :=
  control.word >>> 2

def withRequestEnable (control : CodecControl) (enable : Bool) : CodecControl :=
  ⟨(control.word &&& ~~~1) ||| (if enable then 1 else 0)⟩

def withWrite (control : CodecControl) (write : Bool) : CodecControl :=
  ⟨(control.word &&& ~~~2) ||| (if write then 2 else 0)⟩

def line (control : CodecControl) : Line :=
  if control.write then .codecRequest else .codecReply

/-- The word as the register keeps it: a request never reads back as set. -/
def settled (control : CodecControl) : UInt32 :=
  control.word &&& ~~~1

def details (control : CodecControl) : String :=
  s!"CodecControl \x7b request_enable: {control.requestEnable}, write: {control.write}, "
    ++ s!"reserved_i: {control.rest.toNat} \x7d"

theorem testBit_settled (control : CodecControl) (bit : Nat) :
    control.settled.toNat.testBit bit =
      (decide (bit ≠ 0) && control.word.toNat.testBit bit) := by
  unfold settled
  rw [UInt32.toNat_and, Nat.testBit_and]
  by_cases small : bit < 32
  · have mask : (~~~(1 : UInt32)).toNat.testBit bit = decide (bit ≠ 0) := by
      revert bit
      decide
    rw [mask, Bool.and_comm]
  · have absent : control.word.toNat.testBit bit = false := by
      apply Nat.testBit_lt_two_pow
      exact Nat.lt_of_lt_of_le control.word.toNat_lt (Nat.pow_le_pow_right (by decide) (by omega))
    simp [absent]

end CodecControl

structure ChannelControl where
  word : UInt32
  deriving DecidableEq, Repr

namespace ChannelControl

def enable (control : ChannelControl) : Bool :=
  control.word.toNat.testBit 0

def rest (control : ChannelControl) : UInt32 :=
  control.word >>> 1

def withEnable (control : ChannelControl) (enable : Bool) : ChannelControl :=
  ⟨(control.word &&& ~~~1) ||| (if enable then 1 else 0)⟩

def details (control : ChannelControl) : String :=
  s!"DmaControl \x7b enable: {control.enable}, reserved_i: {control.rest.toNat} \x7d"

end ChannelControl

end SoundCard
