import SoundCard.Board

/-!
# Operations on a board

Everything that can be done to the card from outside, as data: accesses over the bus, calls of the
backend, and what the owner of the board may do. A finite history of a board is a list of these.
-/

set_option autoImplicit false

namespace SoundCard

inductive Operation where
  | busRead (offset : UInt32)
  | busWrite (offset value : UInt32)
  | read (index : Nat)
  | write (index : Nat) (value : UInt32)
  | updateVoices
  | reset
  | save
  | load (snapshot : List UInt8)
  | playback (free : Nat)
  | capture (available : Nat)
  deriving DecidableEq

inductive Reply where
  | done
  | word (value : UInt32)
  | snapshot (bytes : List UInt8)
  | refused (refusal : Snapshot.Refusal)
  deriving DecidableEq

namespace Board

variable {σ : Type} [Backend σ]

def perform (board : Board σ) (operation : Operation) : Reply × Board σ × List Action :=
  match operation with
  | .busRead offset => let (value, after) := board.busRead offset; (.word value, after)
  | .busWrite offset value => (.done, board.busWrite offset value)
  | .read index => let (value, after) := board.read index; (.word value, after)
  | .write index value => (.done, board.write index value)
  | .updateVoices => (.done, board.updateVoices)
  | .reset => (.done, board.reset)
  | .save => (.snapshot board.device.save, board, [])
  | .load snapshot =>
    match board.load snapshot with
    | .ok after => (.done, after)
    | .error refusal => (.refused refusal, board, [])
  | .playback free => (.done, board.playback free)
  | .capture available => (.done, board.capture available)

/-- Performs operations one after the other. Gives the replies and the actions of all of them in
order. -/
def performAll (board : Board σ) : List Operation → List Reply × Board σ × List Action
  | [] => ([], board, [])
  | operation :: rest =>
    let (reply, board, actions) := board.perform operation
    let (replies, board, later) := board.performAll rest
    (reply :: replies, board, actions ++ later)

end Board

end SoundCard
