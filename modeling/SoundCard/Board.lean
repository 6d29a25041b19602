import SoundCard.Device.Streaming
import SoundCard.Journal
import SoundCard.Line.Recorder

/-!
# The board

A card together with the memory that it streams from and to, the interrupt lines that it drives and
the journal of a debugger that may watch it. The board carries out what the card does to these
parts; the actions are also handed on to whoever runs the board.
-/

set_option autoImplicit false

namespace SoundCard

structure Board (σ : Type) where
  device : Device σ
  memory : Memory
  lines : Recorder
  journal : Journal Event
  watched : Bool

namespace Board

variable {σ : Type}

/-- Carries out one action of the card. The backend and the memory have seen it already. -/
def observe (board : Board σ) (action : Action) : Board σ :=
  match action with
  | .drove line level => { board with lines := board.lines.drive line level }
  | .event event =>
    if board.watched then { board with journal := board.journal.event event } else board
  | .error text =>
    if board.watched then { board with journal := board.journal.error text } else board
  | _ => board

def carryOut (board : Board σ) (actions : List Action) : Board σ :=
  actions.foldl observe board

def operate (board : Board σ) (operation : Device σ → Device σ × List Action) :
    Board σ × List Action :=
  let (device, actions) := operation board.device
  ({ board with device }.carryOut actions, actions)

def read (board : Board σ) (index : Nat) : UInt32 × Board σ × List Action :=
  let (value, actions) := board.device.read index
  (value, board.carryOut actions, actions)

def busRead (board : Board σ) (offset : UInt32) : UInt32 × Board σ × List Action :=
  board.read (Device.position offset)

def takePulses (board : Board σ) : List Line × Board σ :=
  let (pulses, lines) := board.lines.takePending
  (pulses, { board with lines })

section

variable [Backend σ]

def powerOn (backend : σ) (memory : Memory) (journal : Journal Event) (watched : Bool) :
    Board σ × List Action :=
  let (device, actions) := Device.powerOn backend
  ({ device, memory, lines := .quiet, journal, watched : Board σ }.carryOut actions, actions)

def write (board : Board σ) (index : Nat) (value : UInt32) : Board σ × List Action :=
  board.operate fun device => device.write index value

def busWrite (board : Board σ) (offset value : UInt32) : Board σ × List Action :=
  board.write (Device.position offset) value

def updateVoices (board : Board σ) : Board σ × List Action :=
  board.operate Device.updateVoices

def reset (board : Board σ) : Board σ × List Action :=
  board.operate Device.reset

/-- Restores the card from a snapshot. A refused snapshot leaves the whole board as it was. -/
def load (board : Board σ) (snapshot : List UInt8) :
    Except Snapshot.Refusal (Board σ × List Action) :=
  (board.device.load snapshot).map fun (device, actions) =>
    ({ board with device }.carryOut actions, actions)

def playback (board : Board σ) (free : Nat) : Board σ × List Action :=
  board.operate fun device => device.playbackReady board.memory free

def capture (board : Board σ) (available : Nat) : Board σ × List Action :=
  let ⟨device, memory, lines, journal, watched⟩ := board
  let (device, memory, actions) := device.captureReady memory available
  ({ device, memory, lines, journal, watched : Board σ }.carryOut actions, actions)

end

end Board

end SoundCard
