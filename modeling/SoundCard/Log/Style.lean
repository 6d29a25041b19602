import SoundCard.Log.Level

/-!
# The look of log lines

Each line starts with the letter of its level, except for trace lines, which are dimmed instead.
Colours are terminal escape codes and can be left out.
-/

set_option autoImplicit false

namespace SoundCard.Log

inductive Style where
  | plain
  | coloured
  deriving DecidableEq, Repr

namespace Style

/-- The text between the escape codes that switch a rendition on and all renditions off. -/
def paint (style : Style) (rendition : String) (text : String) : String :=
  match style with
  | plain => text
  | coloured => "\x1b[" ++ rendition ++ "m" ++ text ++ "\x1b[0m"

def line (style : Style) (record : Record) : String :=
  match record.level with
  | .error => style.paint "1;31" "E" ++ " " ++ style.paint "31" record.text
  | .warn => style.paint "1;33" "W" ++ " " ++ style.paint "33" record.text
  | .info => style.paint "1;34" "I" ++ " " ++ record.text
  | .debug => style.paint "34" "D" ++ " " ++ record.text
  | .trace => style.paint "2" record.text

def elision (style : Style) : String :=
  style.paint "2" "..."

/-- Colours are used only on demand: when they are forced by any text but `0`. -/
def ofForced (forced : Option String) : Style :=
  match forced with
  | some text => if text = "0" then plain else coloured
  | none => plain

end Style

end SoundCard.Log
