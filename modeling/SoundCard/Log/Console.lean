import SoundCard.Log.Style

/-!
# Log lines with trace context

Trace records are far too many to be printed. They are kept back instead, the latest twenty of them,
and printed as context in front of the next record of a higher level. When the context is full, a
line of dots stands in front of it.
-/

set_option autoImplicit false

namespace SoundCard.Log

structure Console where
  context : List String
  deriving DecidableEq, Repr

namespace Console

def contextSize : Nat := 20

def empty : Console := ⟨[]⟩

/-- The lines of the context, oldest first, with the dots in front if there may have been more. -/
def shown (console : Console) (style : Style) : List String :=
  if console.context.length = contextSize then style.elision :: console.context.reverse
  else console.context.reverse

/-- Takes a record and gives the lines to print. A record that is not accepted changes nothing. -/
def log (console : Console) (style : Style) (accepts : Record → Bool) (record : Record) :
    Console × List String :=
  if accepts record then
    let line := style.line record
    if record.level = .trace then
      (⟨(line :: console.context).take contextSize⟩, [])
    else
      (empty, console.shown style ++ [line])
  else
    (console, [])

end Console

end SoundCard.Log
