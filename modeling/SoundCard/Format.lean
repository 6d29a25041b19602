/-!
# Sample formats

The layout of the samples in an audio stream, and the one layout that the card uses.
-/

set_option autoImplicit false

namespace SoundCard

inductive Coding where
  | signed16
  deriving DecidableEq, Repr

inductive ByteOrder where
  | little
  | big
  deriving DecidableEq, Repr

structure Format where
  rate : UInt32
  channels : UInt16
  coding : Coding
  order : ByteOrder
  deriving DecidableEq, Repr

def Coding.name : Coding → String
  | signed16 => "s16"

def Coding.title : Coding → String
  | signed16 => "S16"

def Coding.bytes : Coding → Nat
  | signed16 => 2

def ByteOrder.name : ByteOrder → String
  | little => "le"
  | big => "be"

def ByteOrder.title : ByteOrder → String
  | little => "Little"
  | big => "Big"

namespace Format

/-- The bytes of one frame, which has one sample for each channel. -/
def frameBytes (format : Format) : Nat :=
  format.channels.toNat * format.coding.bytes

def text (format : Format) : String :=
  s!"{format.rate.toNat}Hz {format.channels.toNat}ch {format.coding.name}{format.order.name}"

def details (format : Format) : String :=
  s!"AudioFormat \x7b sample_rate_hz: {format.rate.toNat}, channels: {format.channels.toNat}, "
    ++ s!"sample_format: {format.coding.title}, endianness: {format.order.title} \x7d"

/-- The format of both voices of the card. The guest is big endian. -/
def voice : Format where
  rate := 48000
  channels := 2
  coding := .signed16
  order := .big

theorem frameBytes_voice : voice.frameBytes = 4 := rfl

end Format

end SoundCard
