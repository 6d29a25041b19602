import SoundCard.Notice

/-!
# Guest memory

A window of memory in a 32-bit address space that wraps around. Accesses never fail: a byte outside
of the window reads as zero and a store to it is dropped. Each access can tell how many of its bytes
were outside.

`byteAt_store` says what storing one byte does to the byte at any address; a write is such stores one
after the other.
-/

set_option autoImplicit false

namespace SoundCard

structure Memory where
  base : UInt32
  cells : Array UInt8
  deriving DecidableEq

namespace Memory

def zeros (base : UInt32) (size : Nat) : Memory where
  base := base
  cells := Array.replicate size 0

def size (memory : Memory) : Nat :=
  memory.cells.size

/-- The distance of an address from the start of the window, going upwards and around. -/
def offset (memory : Memory) (address : UInt32) : Nat :=
  (address - memory.base).toNat

def maps (memory : Memory) (address : UInt32) : Bool :=
  decide (memory.offset address < memory.size)

/-- The byte at an address, zero outside of the window. -/
def byteAt (memory : Memory) (address : UInt32) : UInt8 :=
  memory.cells.getD (memory.offset address) 0

def step (address : UInt32) (distance : Nat) : UInt32 :=
  address + UInt32.ofNat distance

def read (memory : Memory) (address : UInt32) (count : Nat) : List UInt8 :=
  (List.range count).map fun distance => memory.byteAt (step address distance)

def unmapped (memory : Memory) (address : UInt32) (count : Nat) : Nat :=
  (List.range count).countP fun distance => !memory.maps (step address distance)

/-- Stores one byte if the window backs the address. -/
def store (memory : Memory) (address : UInt32) (byte : UInt8) : Memory :=
  { memory with cells := memory.cells.setIfInBounds (memory.offset address) byte }

def write (memory : Memory) (address : UInt32) : List UInt8 → Memory
  | [] => memory
  | byte :: rest => (memory.store address byte).write (address + 1) rest

/-- The bytes of a range that starts in the window and does not leave it. -/
def peek? (memory : Memory) (address : UInt32) (count : Nat) : Option (List UInt8) :=
  let start := memory.offset address
  if start < memory.size ∧ start + count ≤ memory.size then
    some (memory.cells.extract start (start + count)).toList
  else
    none

/-- What an access has to say: nothing if the window backs all of its bytes. -/
def notices (memory : Memory) (access : Access) (address : UInt32) (count : Nat) : List Notice :=
  let missing := memory.unmapped address count
  if missing = 0 then [] else [.unmapped access missing address]

@[simp] theorem length_read (memory : Memory) (address : UInt32) (count : Nat) :
    (memory.read address count).length = count := by
  simp [read]

@[simp] theorem base_store (memory : Memory) (address : UInt32) (byte : UInt8) :
    (memory.store address byte).base = memory.base := rfl

@[simp] theorem size_store (memory : Memory) (address : UInt32) (byte : UInt8) :
    (memory.store address byte).size = memory.size := by
  simp [size, store]

theorem offset_inj (memory : Memory) {left right : UInt32} :
    memory.offset left = memory.offset right ↔ left = right := by
  constructor
  · intro same
    have shifted : left - memory.base = right - memory.base := UInt32.toNat_inj.mp same
    have restored : left - memory.base + memory.base = right - memory.base + memory.base :=
      congrArg (· + memory.base) shifted
    simpa using restored
  · intro same
    rw [same]

theorem byteAt_store (memory : Memory) (address other : UInt32) (byte : UInt8) :
    (memory.store address byte).byteAt other =
      if other = address ∧ memory.maps address then byte else memory.byteAt other := by
  unfold byteAt store
  simp only [Array.getD_eq_getD_getElem?, Array.getElem?_setIfInBounds]
  by_cases same : other = address
  · subst same
    by_cases inside : (other - memory.base).toNat < memory.cells.size
    · simp [offset, maps, size, inside]
    · simp [offset, maps, size, inside]
  · have apart : (address - memory.base).toNat ≠ (other - memory.base).toNat := fun equal =>
      same ((offset_inj memory).mp equal).symm
    simp [same, apart, offset]

@[simp] theorem base_write (memory : Memory) (address : UInt32) (bytes : List UInt8) :
    (memory.write address bytes).base = memory.base := by
  induction bytes generalizing memory address with
  | nil => rfl
  | cons byte rest ih => rw [write, ih, base_store]

@[simp] theorem size_write (memory : Memory) (address : UInt32) (bytes : List UInt8) :
    (memory.write address bytes).size = memory.size := by
  induction bytes generalizing memory address with
  | nil => rfl
  | cons byte rest ih => rw [write, ih, size_store]

end Memory

end SoundCard
