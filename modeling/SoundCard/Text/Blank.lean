/-!
# Blank characters

The characters with the Unicode property of white space, and texts without them at their ends.
-/

set_option autoImplicit false

namespace SoundCard.Blank

def isBlank (letter : Char) : Bool :=
  let code := letter.toNat
  (0x09 ≤ code && code ≤ 0x0d) || code == 0x20 || code == 0x85 || code == 0xa0 ||
    code == 0x1680 || (0x2000 ≤ code && code ≤ 0x200a) || code == 0x2028 || code == 0x2029 ||
    code == 0x202f || code == 0x205f || code == 0x3000

def trim (text : String) : String :=
  let front := text.toList.dropWhile isBlank
  String.ofList (front.reverse.dropWhile isBlank).reverse

end SoundCard.Blank
