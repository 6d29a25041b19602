/-!
# Severity of diagnostics

Five levels from `error` to `trace`, and how much of them is let through. A record has a level, the
part of the program that it is about, and its text.
-/

set_option autoImplicit false

namespace SoundCard.Log

inductive Level where
  | error
  | warn
  | info
  | debug
  | trace
  deriving DecidableEq, Repr

inductive Verbosity where
  | off
  | upTo (level : Level)
  deriving DecidableEq, Repr

def Level.rank : Level → Nat
  | error => 1
  | warn => 2
  | info => 3
  | debug => 4
  | trace => 5

def Level.name : Level → String
  | error => "error"
  | warn => "warn"
  | info => "info"
  | debug => "debug"
  | trace => "trace"

def Level.all : List Level :=
  [.error, .warn, .info, .debug, .trace]

namespace Verbosity

def rank : Verbosity → Nat
  | off => 0
  | upTo level => level.rank

def admits (verbosity : Verbosity) (level : Level) : Bool :=
  decide (level.rank ≤ verbosity.rank)

def name : Verbosity → String
  | off => "off"
  | upTo level => level.name

def all : List Verbosity :=
  .off :: Level.all.map .upTo

/-- The verbosity of that name; upper and lower case letters of ASCII count as equal. -/
def ofName? (text : String) : Option Verbosity :=
  all.find? fun verbosity => verbosity.name == text.map Char.toLower

def max (left right : Verbosity) : Verbosity :=
  if left.rank < right.rank then right else left

end Verbosity

structure Record where
  level : Level
  target : String
  text : String
  deriving DecidableEq, Repr

end SoundCard.Log
