import SoundCard.Board
import SoundCard.Voice.Queues

/-!
# Running a board

A board whose voices are queues needs somebody who plays the part of the sound system: in every tick
each active voice is serviced once with the capacity that it has at that moment. A run ticks until
an awaited line is pulsed or the allowed ticks are used up. Before each tick the host gets a turn
to drain and to feed the queues.
-/

set_option autoImplicit false

namespace SoundCard

namespace Board

def voices (board : Board Queues) : Queues :=
  board.device.backend

def withVoices (board : Board Queues) (voices : Queues) : Board Queues :=
  { board with device := { board.device with backend := voices } }

def servePlayback (board : Board Queues) : Board Queues × List Action :=
  if board.voices.playbackActive then board.playback board.voices.free else (board, [])

def serveCapture (board : Board Queues) : Board Queues × List Action :=
  if board.voices.captureActive then board.capture board.voices.available else (board, [])

/-- One tick: services the active voices, the playback voice first, and takes the edges that are
waiting then. -/
def tick (board : Board Queues) : List Line × Board Queues × List Action :=
  let (board, playback) := board.servePlayback
  let (board, capture) := board.serveCapture
  let (pulses, board) := board.takePulses
  (pulses, board, playback ++ capture)

inductive Outcome where
  | interrupt
  | timeout
  deriving DecidableEq, Repr

structure Run (η : Type) where
  outcome : Outcome
  ticks : Nat
  board : Board Queues
  host : η
  /-- What the card did and what was noticed during the run, last action first. -/
  log : List Action

def Run.actions {η : Type} (run : Run η) : List Action :=
  run.log.reverse

def runFrom {η : Type} (line : Line) (turn : η → Queues → η × Queues) :
    (limit ticks : Nat) → Board Queues → η → (log : List Action) → Run η
  | 0, ticks, board, host, log => ⟨.timeout, ticks, board, host, log⟩
  | limit + 1, ticks, board, host, log =>
    let (host, voices) := turn host board.voices
    let (pulses, board, actions) := (board.withVoices voices).tick
    let log := actions.reverseAux log
    if line ∈ pulses then
      ⟨.interrupt, ticks + 1, board, host, .notice (.reached line (ticks + 1)) :: log⟩
    else
      runFrom line turn limit (ticks + 1) board host log

/-- Runs until `line` is pulsed, for at most `limit` ticks. The host has its turn before each
tick. -/
def run {η : Type} (board : Board Queues) (line : Line) (limit : Nat)
    (turn : η → Queues → η × Queues) (host : η) : Run η :=
  runFrom line turn limit 0 board host []

end Board

end SoundCard
