import Mathlib.Algebra.Group.Nat.Defs
import SoundCard.Memory

/-!
# Ranges of guest memory

Reading and writing whole ranges. Addresses wrap around, so two distances from one address lead to
different cells only below `2 ^ 32`, and a range must not be longer than that for its bytes to stay
apart.
-/

set_option autoImplicit false

namespace SoundCard.Memory

@[simp] theorem step_zero (address : UInt32) : step address 0 = address := by
  simp [step]

theorem step_step (address : UInt32) (first second : Nat) :
    step (step address first) second = step address (first + second) := by
  simp [step, UInt32.add_assoc]

theorem step_succ (address : UInt32) (distance : Nat) :
    step address (distance + 1) = step (address + 1) distance := by
  rw [Nat.add_comm, ← step_step]
  rfl

theorem step_injective {address : UInt32} {first second : Nat}
    (firstSmall : first < 2 ^ 32) (secondSmall : second < 2 ^ 32)
    (same : step address first = step address second) : first = second := by
  have distances : UInt32.ofNat first = UInt32.ofNat second := by
    simpa [step] using same
  have numbers := congrArg UInt32.toNat distances
  rwa [UInt32.toNat_ofNat', UInt32.toNat_ofNat', Nat.mod_eq_of_lt firstSmall,
    Nat.mod_eq_of_lt secondSmall] at numbers

theorem read_add (memory : Memory) (address : UInt32) (first second : Nat) :
    memory.read address (first + second) =
      memory.read address first ++ memory.read (step address first) second := by
  simp [read, List.range_add, step_step, Function.comp_def]

theorem take_read (memory : Memory) (address : UInt32) (count taken : Nat) :
    (memory.read address count).take taken = memory.read address (min taken count) := by
  simp [read, ← List.map_take, List.take_range]

theorem read_congr {left right : Memory} {address : UInt32} {count : Nat}
    (agree : ∀ distance < count,
      left.byteAt (step address distance) = right.byteAt (step address distance)) :
    left.read address count = right.read address count := by
  apply List.map_congr_left
  intro distance member
  exact agree distance (List.mem_range.mp member)

theorem write_append (memory : Memory) (address : UInt32) (first second : List UInt8) :
    memory.write address (first ++ second) =
      (memory.write address first).write (step address first.length) second := by
  induction first generalizing memory address with
  | nil => simp [write]
  | cons byte rest ih =>
      rw [List.cons_append, write, ih, write, List.length_cons, step_succ]

@[simp] theorem maps_store (memory : Memory) (address other : UInt32) (byte : UInt8) :
    (memory.store address byte).maps other = memory.maps other :=
  decide_eq_decide.mpr (by simp [offset])

@[simp] theorem maps_write (memory : Memory) (address other : UInt32) (bytes : List UInt8) :
    (memory.write address bytes).maps other = memory.maps other :=
  decide_eq_decide.mpr (by simp [offset])

/-- A write leaves every cell outside of its range alone. -/
theorem byteAt_write_apart {memory : Memory} {address other : UInt32} {bytes : List UInt8}
    (apart : ∀ distance < bytes.length, other ≠ step address distance) :
    (memory.write address bytes).byteAt other = memory.byteAt other := by
  induction bytes generalizing memory address with
  | nil => rfl
  | cons byte rest ih =>
      have here : other ≠ address := by
        simpa using apart 0 (by simp)
      have there : ∀ distance < rest.length, other ≠ step (address + 1) distance := by
        intro distance small
        rw [← step_succ]
        exact apart (distance + 1) (by simpa using small)
      rw [write, ih there, byteAt_store, if_neg (fun both => here both.1)]

/-- A write that does not run into itself leaves its bytes in the cells that the window backs. -/
theorem byteAt_write_step {memory : Memory} {address : UInt32} {bytes : List UInt8}
    (fits : bytes.length ≤ 2 ^ 32) {distance : Nat} (inside : distance < bytes.length)
    (backed : memory.maps (step address distance) = true) :
    (memory.write address bytes).byteAt (step address distance) = bytes[distance] := by
  induction bytes generalizing memory address distance with
  | nil => cases inside
  | cons byte rest ih =>
      simp only [List.length_cons] at fits inside
      cases distance with
      | zero =>
          have later : ∀ distance < rest.length, address ≠ step (address + 1) distance := by
            intro distance small same
            rw [← step_succ] at same
            have wrapped : 0 = distance + 1 :=
              step_injective (by decide) (by omega) ((step_zero address).trans same)
            omega
          rw [step_zero] at backed ⊢
          rw [write, byteAt_write_apart later, byteAt_store, if_pos ⟨rfl, backed⟩]
          rfl
      | succ distance =>
          rw [step_succ] at backed ⊢
          rw [write, ih (by omega) (by omega) ((maps_store ..).trans backed)]
          rfl

theorem getElem_read (memory : Memory) (address : UInt32) (count : Nat) {distance : Nat}
    (inside : distance < (memory.read address count).length) :
    (memory.read address count)[distance] = memory.byteAt (step address distance) := by
  simp [read]

theorem read_write {memory : Memory} {address : UInt32} {bytes : List UInt8}
    (fits : bytes.length ≤ 2 ^ 32)
    (backed : ∀ distance < bytes.length, memory.maps (step address distance) = true) :
    (memory.write address bytes).read address bytes.length = bytes := by
  apply List.ext_getElem (length_read ..)
  intro distance _ inside
  rw [getElem_read]
  exact byteAt_write_step fits inside (backed distance inside)

theorem offset_step (memory : Memory) (address : UInt32) (distance : Nat) :
    memory.offset (step address distance) = (memory.offset address + distance) % 2 ^ 32 := by
  have moved : step address distance - memory.base =
      address - memory.base + UInt32.ofNat distance := by
    rw [step, UInt32.sub_eq_add_neg, UInt32.sub_eq_add_neg, UInt32.add_assoc, UInt32.add_assoc,
      UInt32.add_comm (UInt32.ofNat distance)]
  rw [offset, moved, UInt32.toNat_add, UInt32.toNat_ofNat', Nat.add_mod_mod]
  rfl

/-- A range that can be peeked at holds what can be read there. -/
theorem peek?_eq_read {memory : Memory} {address : UInt32} {count : Nat}
    (inside : memory.offset address < memory.size)
    (whole : memory.offset address + count ≤ memory.size) (small : memory.size ≤ 2 ^ 32) :
    memory.peek? address count = some (memory.read address count) := by
  have cells : (memory.cells.extract (memory.offset address)
      (memory.offset address + count)).toList = memory.read address count := by
    have size : memory.cells.size = memory.size := rfl
    refine List.ext_getElem ?_ fun distance here there => ?_
    · rw [Array.length_toList, Array.size_extract, length_read]
      omega
    · rw [length_read] at there
      have reached : memory.offset (step address distance) = memory.offset address + distance := by
        rw [offset_step, Nat.mod_eq_of_lt (by omega)]
      rw [getElem_read, byteAt, reached, Array.getElem_toList, Array.getElem_extract]
      exact Array.getElem_eq_getD 0
  rw [← cells]
  exact if_pos ⟨inside, whole⟩

theorem offset_zeros (base : UInt32) (size : Nat) : (zeros base size).offset base = 0 := by
  simp [offset, zeros]

theorem maps_zeros {base : UInt32} {size distance : Nat} (fits : size ≤ 2 ^ 32)
    (inside : distance < size) : (zeros base size).maps (step base distance) = true := by
  rw [maps, offset_step, offset_zeros, Nat.zero_add, Nat.mod_eq_of_lt (by omega), Memory.size, zeros,
    Array.size_replicate]
  exact decide_eq_true inside

/-- What was written at the start of an empty window can be peeked at there. -/
theorem peek?_write_zeros {base : UInt32} {size : Nat} {bytes : List UInt8} (small : size ≤ 2 ^ 32)
    (positive : 0 < size) (fits : bytes.length ≤ size) :
    ((zeros base size).write base bytes).peek? base bytes.length = some bytes := by
  have window : ((zeros base size).write base bytes).size = size :=
    (size_write ..).trans Array.size_replicate
  have start : ((zeros base size).write base bytes).offset base = 0 := by
    rw [offset, base_write]
    exact offset_zeros base size
  rw [peek?_eq_read (by omega) (by omega) (by omega)]
  exact congrArg some (read_write (by omega) fun distance inside =>
    maps_zeros small (by omega))

end SoundCard.Memory
