/-!
# Splitting a text

The parts of a text between separators. There is always one part more than there are separators, so
an empty text has one empty part.
-/

set_option autoImplicit false

namespace SoundCard.Split

def on (separator : Char) : List Char → List (List Char)
  | [] => [[]]
  | letter :: rest =>
    if letter = separator then
      [] :: on separator rest
    else
      match on separator rest with
      | part :: parts => (letter :: part) :: parts
      | [] => [[letter]]

def parts (separator : Char) (text : String) : List String :=
  (on separator text.toList).map String.ofList

end SoundCard.Split
