/-!
# Decimal numbers with a bound

Whole numbers as a user types them: digits with an optional plus sign in front. The text is read
from left to right, so the first obstacle on the way is the one that is reported.
-/

set_option autoImplicit false

namespace SoundCard.Decimal

inductive Fault where
  | empty
  | invalidDigit
  | tooLarge
  deriving DecidableEq, Repr

def Fault.message : Fault → String
  | empty => "cannot parse integer from empty string"
  | invalidDigit => "invalid digit found in string"
  | tooLarge => "number too large to fit in target type"

/-- Reads the digits behind a number that was read already. No number on the way may exceed
`most`. -/
def readDigits (most : Nat) : Nat → List Char → Except Fault Nat
  | value, [] => .ok value
  | value, letter :: rest =>
    if letter.isDigit then
      let next := 10 * value + (letter.toNat - '0'.toNat)
      if most < next then .error .tooLarge else readDigits most next rest
    else
      .error .invalidDigit

def ofText (most : Nat) (text : String) : Except Fault Nat :=
  match text.toList with
  | [] => .error .empty
  | ['+'] => .error .invalidDigit
  | '+' :: digits => readDigits most 0 digits
  | digits => readDigits most 0 digits

end SoundCard.Decimal
