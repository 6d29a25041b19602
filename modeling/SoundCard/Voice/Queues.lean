import SoundCard.Voice.Backend
import SoundCard.Voice.Fifo

/-!
# Voices backed by queues

A backend without any hardware. The playback voice feeds a bounded queue that the host drains, the
capture voice is fed by the host through an unbounded one. A voice that is switched off neither
takes nor gives anything, but its queue stays as it is.
-/

set_option autoImplicit false

namespace SoundCard

structure Queues where
  card : Option String
  format : Option Format
  playbackActive : Bool
  captureActive : Bool
  capacity : Nat
  playback : Fifo UInt8
  capture : Fifo UInt8

namespace Queues

def closed (capacity : Nat) : Queues where
  card := none
  format := none
  playbackActive := false
  captureActive := false
  capacity := capacity
  playback := .empty
  capture := .empty

def active (queues : Queues) : Channel → Bool
  | .playback => queues.playbackActive
  | .capture => queues.captureActive

def free (queues : Queues) : Nat :=
  if queues.playbackActive then queues.capacity - queues.playback.size else 0

def available (queues : Queues) : Nat :=
  if queues.captureActive then queues.capture.size else 0

def queued (queues : Queues) : Nat :=
  queues.playback.size

def drain (queues : Queues) (most : Nat) : List UInt8 × Queues :=
  let (bytes, playback) := queues.playback.take most
  (bytes, { queues with playback })

def feed (queues : Queues) (bytes : List UInt8) : Queues :=
  { queues with capture := queues.capture.push bytes }

def openVoices (queues : Queues) (card : String) (format : Format) : Queues × List Notice :=
  ({ queues with card := some card, format := some format }, [.voicesOpened card format])

/-- Switches a voice. Only a change is worth a notice. -/
def setActive (queues : Queues) (channel : Channel) (active : Bool) : Queues × List Notice :=
  let notices := if active = queues.active channel then [] else [.voiceSwitched channel active]
  match channel with
  | .playback => ({ queues with playbackActive := active }, notices)
  | .capture => ({ queues with captureActive := active }, notices)

def play (queues : Queues) (bytes : List UInt8) : Nat × Queues :=
  let taken := min bytes.length queues.free
  (taken, { queues with playback := queues.playback.push (bytes.take taken) })

/-- Gives the oldest bytes that are waiting, as many as there is room for. -/
def record (queues : Queues) (room : Nat) : Fill × Queues :=
  let (bytes, capture) := queues.capture.take (min room queues.available)
  (⟨bytes, bytes.length⟩, { queues with capture })

instance : Backend Queues where
  openVoices := openVoices
  setActive := setActive
  play := play
  record := record

end Queues

end SoundCard
