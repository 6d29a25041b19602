import SoundCard.Line
import SoundCard.Line.Signal

/-!
# Recording rising edges

The recorder stands in for an interrupt controller. It keeps the level of each line, counts the
rising edges on it, and holds the edges nobody has taken yet in the order in which they happened.
-/

set_option autoImplicit false

namespace SoundCard

structure Recorder where
  signals : PerLine Signal
  /-- Counted without a bound. A counter of 64 bits agrees as long as the line rose fewer than
  `2 ^ 64` times, which is assumed throughout. -/
  counts : PerLine Nat
  pending : List Line
  /-- A rise is taken by the very call that drives the line. -/
  taken : ∀ line, (signals.get line).risen = false
  deriving DecidableEq, Repr

namespace Recorder

def quiet : Recorder where
  signals := .always .low
  counts := .always 0
  pending := []
  taken := fun line => by rw [PerLine.get_always]; rfl

def level (recorder : Recorder) (line : Line) : Bool :=
  (recorder.signals.get line).level

def levels (recorder : Recorder) : List Bool :=
  Line.all.map recorder.level

def count (recorder : Recorder) (line : Line) : Nat :=
  recorder.counts.get line

def anyHigh (recorder : Recorder) : Bool :=
  Line.all.any recorder.level

def drive (recorder : Recorder) (line : Line) (level : Bool) : Recorder :=
  let driven := (recorder.signals.get line).drive level
  let signals := recorder.signals.set line driven.takeRise.2
  have taken : ∀ other, (signals.get other).risen = false := by
    intro other
    rw [PerLine.get_set]
    split
    · exact Signal.takeRise_risen driven
    · exact recorder.taken other
  if driven.takeRise.1 then
    { signals
      counts := recorder.counts.set line (recorder.counts.get line + 1)
      pending := recorder.pending ++ [line]
      taken }
  else
    { recorder with signals, taken }

/-- Raises the line and releases it at once. A line that was high already shows no edge. -/
def pulse (recorder : Recorder) (line : Line) : Recorder :=
  (recorder.drive line true).drive line false

def takePending (recorder : Recorder) : List Line × Recorder :=
  (recorder.pending, { recorder with pending := [] })

theorem level_drive (recorder : Recorder) (line other : Line) (level : Bool) :
    (recorder.drive line level).level other =
      if other = line then level else recorder.level other := by
  unfold drive Recorder.level
  by_cases rose : (Signal.drive (recorder.signals.get line) level).risen = true <;>
    simp only [Signal.takeRise, rose, if_true, if_false, Bool.false_eq_true, PerLine.get_set] <;>
    split <;> rfl

end Recorder

end SoundCard
