/-!
# Edge detection

A signal remembers its level and whether it rose since the rise was last taken. That is enough to
notice a pulse that is raised and released between two looks at the level.
-/

set_option autoImplicit false

namespace SoundCard

structure Signal where
  level : Bool
  risen : Bool
  deriving DecidableEq, Repr

namespace Signal

def low : Signal := ⟨false, false⟩

/-- Drives the wire to `level`. Driving a high wire high again is no rise. -/
def drive (signal : Signal) (level : Bool) : Signal where
  level := level
  risen := signal.risen || (level && !signal.level)

/-- Whether the wire rose since this was last asked, and the wire with that note cleared. -/
def takeRise (signal : Signal) : Bool × Signal :=
  (signal.risen, { signal with risen := false })

@[simp] theorem drive_level (signal : Signal) (level : Bool) :
    (signal.drive level).level = level := rfl

@[simp] theorem takeRise_risen (signal : Signal) : signal.takeRise.2.risen = false := rfl

@[simp] theorem takeRise_level (signal : Signal) : signal.takeRise.2.level = signal.level := rfl

end Signal

end SoundCard
