import SoundCard.Device
import SoundCard.Memory

/-!
# Streaming

The backend calls for a channel when it has room or supply. One call moves at most as many bytes as
remain of the transfer and as the backend has budget for. They go through a staging buffer chunk by
chunk, and the call ends early when the backend takes or gives nothing.

A call announces the end of the transfer only if it moved the last byte itself, and only on an
enabled channel. Seeing that nothing remains is no reason to announce anything.
-/

set_option autoImplicit false

namespace SoundCard

namespace Device

def stagingSize : Nat := 4096

variable {σ : Type}

structure Played (σ : Type) where
  backend : σ
  count : Nat
  actions : List Action

def playChunks [Backend σ] (memory : Memory) (backend : σ) (address : UInt32) (want : Nat) :
    Played σ :=
  if want = 0 then
    ⟨backend, 0, []⟩
  else
    let offer := min want stagingSize
    let chunk := memory.read address offer
    let (answer, backend) := Backend.play backend chunk
    let actions := .fetched address offer ::
      (memory.notices .read address offer).map .notice ++ [.played chunk answer]
    let taken := min answer offer
    if taken = 0 then
      ⟨backend, 0, actions⟩
    else
      let rest := playChunks memory backend (Memory.step address taken) (want - taken)
      ⟨rest.backend, taken + rest.count, actions ++ rest.actions⟩
termination_by want
decreasing_by omega

structure Captured (σ : Type) where
  backend : σ
  memory : Memory
  count : Nat
  actions : List Action

/-- Stores up to `want` bytes of the capture voice from `address` upwards, in chunks. The staging
buffer is not cleared between chunks, so a backend that claims more than it stored repeats what the
buffer held. -/
def captureChunks [Backend σ] (memory : Memory) (backend : σ) (staging : List UInt8)
    (address : UInt32) (want : Nat) : Captured σ :=
  if want = 0 then
    ⟨backend, memory, 0, []⟩
  else
    let room := min want stagingSize
    let (fill, backend) := Backend.record backend room
    let staging := fill.into room staging
    let call := Action.recorded room (staging.take room) fill.answer
    let taken := min fill.answer room
    if taken = 0 then
      ⟨backend, memory, 0, [call]⟩
    else
      let bytes := staging.take taken
      let actions := call :: .stored address bytes ::
        (memory.notices .write address taken).map .notice
      let rest := captureChunks (memory.write address bytes) backend staging
        (Memory.step address taken) (want - taken)
      ⟨rest.backend, rest.memory, taken + rest.count, actions ++ rest.actions⟩
termination_by want
decreasing_by omega

/-- Books `count` moved bytes on a channel and announces the end of the transfer if this call
reached it. -/
def settle (device : Device σ) (channel : Channel) (count : Nat) : Device σ × List Action :=
  let moved := UInt32.ofNat count
  let address := device.registers.get channel.address + moved
  let remaining := device.registers.get channel.remaining - moved
  let registers := (device.registers.set channel.address address).set channel.remaining remaining
  let complete := registers.enabled channel && remaining == 0 && decide (0 < count)
  ({ device with registers },
    .notice (.transferred channel moved) :: .event (.transfer channel moved) ::
      if complete then Action.pulse channel.line else [])

def playbackReady [Backend σ] (device : Device σ) (memory : Memory) (free : Nat) :
    Device σ × List Action :=
  let remaining := device.registers.get .playbackRemaining
  let called := Action.notice (.called .playback free remaining)
  let want := min remaining.toNat free
  if want = 0 then
    (device, [called])
  else
    let address := device.registers.get .playbackAddress
    let played := playChunks memory device.backend address want
    let (device, actions) := { device with backend := played.backend }.settle .playback played.count
    (device, called :: played.actions ++ actions)

def captureReady [Backend σ] (device : Device σ) (memory : Memory) (available : Nat) :
    Device σ × Memory × List Action :=
  let remaining := device.registers.get .captureRemaining
  let called := Action.notice (.called .capture available remaining)
  let want := min remaining.toNat available
  if want = 0 then
    (device, memory, [called])
  else
    let address := device.registers.get .captureAddress
    let staging := List.replicate (min want stagingSize) 0
    let captured := captureChunks memory device.backend staging address want
    let (device, actions) := { device with backend := captured.backend }.settle .capture captured.count
    (device, captured.memory, called :: captured.actions ++ actions)

end Device

end SoundCard
