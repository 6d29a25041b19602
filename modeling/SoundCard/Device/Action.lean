import SoundCard.Event
import SoundCard.Notice

/-!
# Actions of the card

The card does not hold the parts of the machine around it. Each of its operations says instead, in
order, what it does to them: to the backend, the interrupt lines, the memory, the debugger and the
log. Interpreting the list is the business of whoever owns those parts.
-/

set_option autoImplicit false

namespace SoundCard

inductive Action where
  | opened (card : String) (format : Format)
  /-- Switched a voice on or off, whatever it was before. -/
  | switched (channel : Channel) (active : Bool)
  | played (offered : List UInt8) (answer : Nat)
  /-- Offered a buffer of `room` bytes to the capture voice, which left the given bytes in it and
  gave the answer. -/
  | recorded (room : Nat) (buffer : List UInt8) (answer : Nat)
  | drove (line : Line) (level : Bool)
  | fetched (address : UInt32) (count : Nat)
  | stored (address : UInt32) (bytes : List UInt8)
  | event (event : Event)
  | error (text : String)
  | notice (notice : Notice)

namespace Action

def notice? : Action → Option Notice
  | .notice remark => some remark
  | _ => none

def event? : Action → Option Event
  | .event seen => some seen
  | _ => none

/-- The bytes that the playback voice took because of the action. -/
def accepted : Action → List UInt8
  | .played offered answer => offered.take answer
  | _ => []

/-- The bytes that the capture voice gave because of the action. -/
def acquired : Action → List UInt8
  | .recorded _ buffer answer => buffer.take answer
  | _ => []

def pulse (line : Line) : List Action :=
  [.notice (.pulsed line), .drove line true, .drove line false, .event (.interrupt line)]

end Action

end SoundCard
