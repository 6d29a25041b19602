import SoundCard.Format
import SoundCard.Log.Level
import SoundCard.Register.Bank

/-!
# Notices

Everything the library has to say about its own work, as data. The wording, the level and the part
of the program are functions of the notice, so that nothing is written out before somebody wants
to read it.
-/

set_option autoImplicit false

namespace SoundCard

inductive Access where
  | read
  | write
  deriving DecidableEq, Repr

def Access.name : Access → String
  | read => "read"
  | write => "write"

inductive Notice where
  | registerAccess (access : Access) (register : Register) (value : UInt32)
  /-- An access to a position of the register window where no word answers. -/
  | unknownRegister (access : Access) (index : Nat)
  | pulsed (line : Line)
  | called (channel : Channel) (budget : Nat) (remaining : UInt32)
  | transferred (channel : Channel) (count : UInt32)
  | voicesOpened (card : String) (format : Format)
  | voiceSwitched (channel : Channel) (active : Bool)
  | unmapped (access : Access) (count : Nat) (address : UInt32)
  | reached (line : Line) (ticks : Nat)
  | resumed (registers : Bank)
  | incomplete (ticks : Nat) (registers : Bank)
  | streamed (bytes : Nat) (completed : Bool)

namespace Notice

def level : Notice → Log.Level
  | registerAccess .. => .trace
  | unknownRegister .. => .error
  | pulsed .. => .trace
  | called .. => .trace
  | transferred .. => .trace
  | voicesOpened .. => .debug
  | voiceSwitched .. => .debug
  | unmapped .. => .warn
  | reached .. => .debug
  | resumed .. => .info
  | incomplete .. => .warn
  | streamed .. => .info

def target : Notice → String
  | registerAccess .. => "ac97_emulator::components::ac97"
  | unknownRegister .. => "ac97_emulator::components::ac97"
  | pulsed .. => "ac97_emulator::components::ac97"
  | called .. => "ac97_emulator::components::ac97::dma"
  | transferred .. => "ac97_emulator::components::ac97::dma"
  | voicesOpened .. => "ac97_emulator::components::audio_queue"
  | voiceSwitched .. => "ac97_emulator::components::audio_queue"
  | unmapped .. => "ac97_emulator::common::memory"
  | reached .. => "ac97_emulator"
  | resumed .. => "ac97_cli"
  | incomplete .. => "ac97_cli"
  | streamed .. => "ac97_cli"

/-- An unknown register is named by its byte offset, which is counted modulo `2 ^ 64`. -/
def text : Notice → String
  | registerAccess access register value =>
    s!"AC97 {access.name} {register.name} ({Hex.padded 2 register.offset.toNat}) = "
      ++ Hex.padded 8 value.toNat
  | unknownRegister access index =>
    s!"AC97 {access.name} access to unknown register 0x" ++ Hex.upper (index * 4 % UInt64.size)
  | pulsed line => s!"AC97 pulse irq {line.name}"
  | called .playback budget remaining =>
    s!"AC97 playback callback free={budget} remaining={remaining.toNat}"
  | called .capture budget remaining =>
    s!"AC97 capture callback avail={budget} remaining={remaining.toNat}"
  | transferred channel count => s!"AC97 {channel.name} transferred {count.toNat} bytes"
  | voicesOpened card format => s!"Opened voices of {card} at {format.text}"
  | voiceSwitched channel active => s!"{channel.title} voice active={active}"
  | unmapped .read count address =>
    s!"RAM read of {count} unmapped bytes at {Hex.padded 8 address.toNat}"
  | unmapped .write count address =>
    s!"RAM write of {count} unmapped bytes at {Hex.padded 8 address.toNat} dropped"
  | reached line ticks => s!"{line.name} after {ticks} ticks"
  | resumed registers => s!"Resuming playback: {registers.text}"
  | incomplete ticks registers =>
    s!"Transfer did not complete within {ticks} ticks: {registers.text}"
  | streamed bytes completed => s!"Streamed {bytes} bytes, completed: {completed}"

def record (notice : Notice) : Log.Record :=
  ⟨notice.level, notice.target, notice.text⟩

end Notice

end SoundCard
