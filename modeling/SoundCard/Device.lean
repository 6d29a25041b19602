import SoundCard.Device.Action
import SoundCard.Snapshot
import SoundCard.Voice.Backend

/-!
# The card

A codec command channel and two streaming channels behind eleven words. The codec itself is not
interpreted: its words are kept as written, and a command has no effect but an interrupt pulse.
A streaming channel is enabled by bit 0 of its control word, and its voice is active accordingly.

Every operation is a function from the state of the card to the next one, together with what it
does to the machine around it.
-/

set_option autoImplicit false

namespace SoundCard

def cardName : String := "Milkymist AC'97"

def playbackVoiceName : String := "mm_ac97.out"

def captureVoiceName : String := "mm_ac97.in"

structure Device (σ : Type) where
  registers : Bank
  backend : σ

namespace Device

variable {σ : Type}

def unknownAccess (access : Access) (index : Nat) : List Action :=
  let notice := Notice.unknownRegister access index
  [.notice notice, .error notice.text]

/-- Reads the word at a position of the register window. Where no word answers, the value is zero
and an error is reported. -/
def read (device : Device σ) (index : Nat) : UInt32 × List Action :=
  match Register.reached? index with
  | none => (0, unknownAccess .read index)
  | some register =>
    let value := device.registers.get register
    (value, [.notice (.registerAccess .read register value), .event (.registerRead register value)])

def save (device : Device σ) : List UInt8 :=
  Snapshot.encode ⟨Snapshot.currentVersion, device.registers⟩

section

variable [Backend σ]

def powerOn (backend : σ) : Device σ × List Action :=
  let (backend, notices) := Backend.openVoices backend cardName .voice
  ({ registers := .zero, backend }, .opened cardName .voice :: notices.map .notice)

def switch (device : Device σ) (channel : Channel) (active : Bool) : Device σ × List Action :=
  let (backend, notices) := Backend.setActive device.backend channel active
  ({ device with backend }, .switched channel active :: notices.map .notice)

/-- Makes each voice active exactly if its channel is enabled. -/
def updateVoices (device : Device σ) : Device σ × List Action :=
  let (device, playback) := device.switch .playback (device.registers.enabled .playback)
  let (device, capture) := device.switch .capture (device.registers.enabled .capture)
  (device, playback ++ capture)

/-- What writing a value does to the card once the word is known. A codec command is announced, and
its request bit is cleared. Writing a control word updates the voices. -/
def store (device : Device σ) (register : Register) (value : UInt32) : Device σ × List Action :=
  match register with
  | .codecControl =>
    let control : CodecControl := ⟨value⟩
    ({ device with registers := device.registers.set register control.settled },
      if control.requestEnable then Action.pulse control.line else [])
  | .playbackControl | .captureControl =>
    { device with registers := device.registers.set register value : Device σ }.updateVoices
  | _ => ({ device with registers := device.registers.set register value }, [])

/-- Writes the word at a position of the register window. Where no word answers, nothing is written
and an error is reported. -/
def write (device : Device σ) (index : Nat) (value : UInt32) : Device σ × List Action :=
  match Register.reached? index with
  | none => (device, unknownAccess .write index)
  | some register =>
    let (device, actions) := device.store register value
    (device, .notice (.registerAccess .write register value) ::
      .event (.registerWrite register value) :: actions)

/-- Clears every word and switches both voices off, the capture voice first. -/
def reset (device : Device σ) : Device σ × List Action :=
  let device := { device with registers := .zero }
  let (device, capture) := device.switch .capture false
  let (device, playback) := device.switch .playback false
  (device, capture ++ playback)

/-- Restores the words from a snapshot and updates the voices. Nothing happens to the card if the
snapshot is refused. -/
def load (device : Device σ) (snapshot : List UInt8) :
    Except Snapshot.Refusal (Device σ × List Action) :=
  (Snapshot.restore snapshot).map fun registers => { device with registers : Device σ }.updateVoices

end

def position (offset : UInt32) : Nat :=
  offset.toNat / 4

end Device

end SoundCard
