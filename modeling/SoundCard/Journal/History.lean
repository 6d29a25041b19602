/-!
# Bounded history

The latest entries of an unending record, newest first. When the limit is exceeded the oldest entry
is forgotten.
-/

set_option autoImplicit false

namespace SoundCard

/-- The latest entries, at most `limit` of them once anything was pushed, newest first. -/
structure History (limit : Nat) (α : Type) where
  entries : List α
  deriving DecidableEq

namespace History

variable {limit : Nat} {α : Type}

def empty : History limit α := ⟨[]⟩

/-- Adds the newest entry and forgets the oldest one if there are too many. -/
def push (history : History limit α) (entry : α) : History limit α :=
  ⟨(entry :: history.entries).take limit⟩

def pop (history : History limit α) : Option α × History limit α :=
  (history.entries.head?, ⟨history.entries.tail⟩)

def size (history : History limit α) : Nat :=
  history.entries.length

@[simp] theorem entries_push (history : History limit α) (entry : α) :
    (history.push entry).entries = (entry :: history.entries).take limit := rfl

theorem size_push_le (history : History limit α) (entry : α) :
    (history.push entry).size ≤ limit := by
  rw [size, entries_push, List.length_take]
  exact Nat.min_le_left ..

end History

end SoundCard
