/-!
# Hexadecimal text

Numbers in upper case base sixteen, without a leading mark. `Hex.upper` writes as few digits as
the value needs; `Hex.padded` fills up with zeros on the left and never cuts a digit off.
-/

set_option autoImplicit false

namespace SoundCard.Hex

def digits (value : Nat) : List Char :=
  (Nat.toDigits 16 value).map Char.toUpper

def upper (value : Nat) : String :=
  String.ofList (digits value)

def padded (width value : Nat) : String :=
  String.ofList (List.replicate (width - (digits value).length) '0' ++ digits value)

end SoundCard.Hex
