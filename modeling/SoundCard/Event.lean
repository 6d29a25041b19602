import SoundCard.Register

/-!
# Observable events

What a debugger that watches the card gets to see.
-/

set_option autoImplicit false

namespace SoundCard

inductive Event where
  | registerRead (register : Register) (value : UInt32)
  | registerWrite (register : Register) (value : UInt32)
  | interrupt (line : Line)
  | transfer (channel : Channel) (count : UInt32)
  deriving DecidableEq, Repr

namespace Event

def text : Event → String
  | registerRead register value => s!"RegisterRead({register.title}, {value.toNat})"
  | registerWrite register value => s!"RegisterWrite({register.title}, {value.toNat})"
  | interrupt line => s!"Interrupt({line.title})"
  | transfer channel count => s!"Transfer({channel.title}, {count.toNat})"

end Event

end SoundCard
