import SoundCard.Text.Printable

/-!
# Quoted text

A text between double quotes, on one line and without characters that a reader could not see. The
quote and the backslash get a backslash in front; a single quote stands as it is.
-/

set_option autoImplicit false

namespace SoundCard.Quoted

def letter (char : Char) : List Char :=
  if char = '"' then ['\\', '"']
  else if char = '\\' then ['\\', '\\']
  else if char = '\t' then ['\\', 't']
  else if char = '\n' then ['\\', 'n']
  else if char = '\r' then ['\\', 'r']
  else if char.toNat = 0 then ['\\', '0']
  else if Printable.isPrintable char then [char]
  else "\\u\x7b".toList ++ Nat.toDigits 16 char.toNat ++ ['\x7d']

def quote (text : String) : String :=
  String.ofList ('"' :: text.toList.flatMap letter ++ ['"'])

end SoundCard.Quoted
