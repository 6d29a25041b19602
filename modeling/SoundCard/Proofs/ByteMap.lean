import SoundCard.Proofs.Conservation
import SoundCard.Proofs.Latest

/-!
# Memory as a map from addresses to bytes

Whoever reads a memory cannot tell it from a map of all addresses of which the window shows a part. A
byte of the window is the one that was stored to its address last, and zero if none was; the others are
zero and cannot be changed. The window may lie across the end of the address space, and so may what is
read, written and peeked at.
-/

set_option autoImplicit false

namespace SoundCard.Memory

/-- What is asked of a memory. The card reads and writes, its owner loads it and peeks at it. A read
comes with the buffer that it is to fill. -/
inductive Call where
  | read (address : UInt32) (buffer : List UInt8)
  | write (address : UInt32) (bytes : List UInt8)
  | load (address : UInt32) (bytes : List UInt8)
  | peek (address : UInt32) (count : Nat)
  deriving DecidableEq

/-- What a call gives back, and what the memory remarks on it. -/
structure Answer where
  bytes : Option (List UInt8)
  notices : List Notice

namespace Call

/-- The cells that a call stores to, in order, each with its byte. -/
def cells : Call → List (UInt32 × UInt8)
  | .write address bytes | .load address bytes => spread address bytes
  | .read _ _ | .peek _ _ => []

/-- The range that a call reads or writes. Peeking is no access. -/
def access? : Call → Option (Access × UInt32 × Nat)
  | .read address buffer => some (.read, address, buffer.length)
  | .write address bytes | .load address bytes => some (.write, address, bytes.length)
  | .peek _ _ => none

end Call

def call (memory : Memory) : Call → Memory × Answer
  | .read address buffer =>
    (memory, ⟨some (memory.read address buffer.length),
      memory.notices .read address buffer.length⟩)
  | .write address bytes | .load address bytes =>
    (memory.write address bytes, ⟨none, memory.notices .write address bytes.length⟩)
  | .peek address count => (memory, ⟨memory.peek? address count, []⟩)

def after (memory : Memory) (history : List Call) : Memory :=
  history.foldl (fun memory call => (memory.call call).1) memory

/-- A window of `size` bytes from `base` upwards, and around, reaches the address. -/
def Reaches (base : UInt32) (size : Nat) (address : UInt32) : Prop :=
  (address - base).toNat < size

instance (base : UInt32) (size : Nat) (address : UInt32) : Decidable (Reaches base size address) :=
  inferInstanceAs (Decidable (_ < _))

/-- How many bytes of a range the window does not reach. -/
def missing (base : UInt32) (size : Nat) (address : UInt32) (count : Nat) : Nat :=
  (List.range count).countP fun distance => ¬Reaches base size (step address distance)

/-- The byte at an address of the map that the stores fill, as the window shows it. -/
def shown (base : UInt32) (size : Nat) (cells : List (UInt32 × UInt8)) (address : UInt32) : UInt8 :=
  if Reaches base size address then (latest? cells address).getD 0 else 0

/-!
## Stores
-/

/-- The memory has the window of the given place and size. -/
def Windowed (memory : Memory) (base : UInt32) (size : Nat) : Prop :=
  memory.base = base ∧ memory.size = size

theorem windowed_zeros (base : UInt32) (size : Nat) : (zeros base size).Windowed base size :=
  ⟨rfl, Array.size_replicate⟩

theorem Windowed.store {memory : Memory} {base : UInt32} {size : Nat}
    (windowed : memory.Windowed base size) (cell : UInt32 × UInt8) :
    (memory.store cell.1 cell.2).Windowed base size := by
  simpa [Windowed] using windowed

theorem Windowed.maps_iff {memory : Memory} {base : UInt32} {size : Nat}
    (windowed : memory.Windowed base size) (address : UInt32) :
    memory.maps address = true ↔ Reaches base size address := by
  obtain ⟨rfl, rfl⟩ := windowed
  exact decide_eq_true_iff

theorem Windowed.unmapped_eq {memory : Memory} {base : UInt32} {size : Nat}
    (windowed : memory.Windowed base size) (address : UInt32) (count : Nat) :
    memory.unmapped address count = missing base size address count := by
  simp [unmapped, missing, ← windowed.maps_iff]

theorem byteAt_eq_zero {memory : Memory} {address : UInt32} (unmapped : ¬memory.maps address = true) :
    memory.byteAt address = 0 := by
  simp only [maps, decide_eq_true_eq, Nat.not_lt] at unmapped
  simp [byteAt, Array.getD_eq_getD_getElem?, Array.getElem?_eq_none unmapped]

theorem byteAt_zeros (base : UInt32) (size : Nat) (address : UInt32) :
    (zeros base size).byteAt address = 0 := by
  simp [byteAt, zeros, Array.getD_eq_getD_getElem?, Array.getElem?_replicate]
  split <;> rfl

/-- Storing to a cell that the window does not reach does nothing. -/
theorem store_unmapped {memory : Memory} {address : UInt32} (unmapped : ¬memory.maps address = true)
    (byte : UInt8) : memory.store address byte = memory := by
  simp only [maps, decide_eq_true_eq, Nat.not_lt] at unmapped
  simp [store, Array.setIfInBounds_eq_of_size_le unmapped]

/-!
## Histories
-/

theorem after_eq_foldl (memory : Memory) (history : List Call) :
    memory.after history =
      (history.flatMap Call.cells).foldl (fun memory cell => memory.store cell.1 cell.2) memory := by
  induction history generalizing memory with
  | nil => rfl
  | cons call rest ih =>
      have first : (memory.call call).1 =
          call.cells.foldl (fun memory cell => memory.store cell.1 cell.2) memory := by
        cases call with
        | read | peek => rfl
        | write | load => exact write_eq_foldl_spread ..
      rw [List.flatMap_cons, List.foldl_append, ← first]
      exact ih (memory.call call).1

/-- Only the stores that the window reaches count. -/
theorem foldl_store_filter {memory : Memory} {base : UInt32} {size : Nat}
    (windowed : memory.Windowed base size) (cells : List (UInt32 × UInt8)) :
    cells.foldl (fun memory cell => memory.store cell.1 cell.2) memory =
      (cells.filter fun cell => Reaches base size cell.1).foldl
        (fun memory cell => memory.store cell.1 cell.2) memory := by
  induction cells generalizing memory with
  | nil => rfl
  | cons cell rest ih =>
      by_cases reached : Reaches base size cell.1
      · simpa [reached] using ih (windowed.store cell)
      · have nothing := store_unmapped (mt (windowed.maps_iff cell.1).mp reached) cell.2
        simpa [reached, nothing] using ih windowed

theorem windowed_after (base : UInt32) (size : Nat) (history : List Call) :
    ((zeros base size).after history).Windowed base size := by
  rw [after_eq_foldl]
  exact List.foldlRecOn (motive := (Windowed · base size)) _ _ (windowed_zeros base size)
    fun _ windowed cell _ => windowed.store cell

theorem shows_byteAt {base : UInt32} {size : Nat} {address : UInt32}
    (reached : Reaches base size address) :
    Shows (fun memory (cell : UInt32 × UInt8) => memory.store cell.1 cell.2)
      (Windowed · base size) some address (byteAt · address) id := by
  constructor
  · exact fun memory cell windowed => windowed.store cell
  · rintro memory _ byte windowed ⟨⟩
    simp [byteAt_store, (windowed.maps_iff address).mpr reached]
  · rintro memory ⟨other, byte⟩ windowed apart
    have elsewhere : address ≠ other := by
      rintro rfl
      exact apart byte rfl
    simp [byteAt_store, elsewhere]

theorem byteAt_after (base : UInt32) (size : Nat) (history : List Call) (address : UInt32) :
    ((zeros base size).after history).byteAt address =
      shown base size (history.flatMap Call.cells) address := by
  unfold shown
  split
  · next reached =>
    rw [after_eq_foldl]
    simpa [byteAt_zeros] using
      (shows_byteAt reached).foldl (windowed_zeros base size) (history.flatMap Call.cells)
  · next unreached =>
    exact byteAt_eq_zero (mt ((windowed_after base size history).maps_iff address).mp unreached)

theorem exists_text_unmapped (access : Access) (count : Nat) (address : UInt32) :
    ∃ rest, (Notice.unmapped access count address).text =
      "RAM " ++ access.name ++ " of " ++ toString count ++ rest := by
  cases access with
  | read =>
      have opening : "RAM " ++ Access.read.name ++ " of " = "RAM read of " := by decide
      exact ⟨" unmapped bytes at " ++ Hex.padded 8 address.toNat, by
        rw [opening, ← String.append_assoc]; rfl⟩
  | write =>
      have opening : "RAM " ++ Access.write.name ++ " of " = "RAM write of " := by decide
      exact ⟨" unmapped bytes at " ++ Hex.padded 8 address.toNat ++ " dropped", by
        rw [opening, ← String.append_assoc, ← String.append_assoc]; rfl⟩

theorem peek?_isSome_iff_bounds (memory : Memory) (address : UInt32) (count : Nat) :
    (memory.peek? address count).isSome = true ↔
      memory.offset address < memory.size ∧ memory.offset address + count ≤ memory.size := by
  unfold peek?
  dsimp only
  split <;> simp_all

/-- A window shorter than the address space holds a range in one piece exactly if it reaches every
byte of it. -/
theorem peek?_isSome_iff {memory : Memory} {base : UInt32} {size : Nat}
    (windowed : memory.Windowed base size) (small : size < 2 ^ 32) {address : UInt32} {count : Nat}
    (positive : 0 < count) :
    (memory.peek? address count).isSome = true ↔
      ∀ distance < count, Reaches base size (step address distance) := by
  have place : ∀ distance, Reaches base size (step address distance) ↔
      (memory.offset address + distance) % 2 ^ 32 < size := by
    intro distance
    rw [← windowed.maps_iff, maps, decide_eq_true_iff, offset_step, windowed.2]
  rw [peek?_isSome_iff_bounds, windowed.2]
  constructor
  · rintro ⟨_, whole⟩ distance inside
    rw [place, Nat.mod_eq_of_lt (by omega)]
    omega
  · intro reached
    have start : memory.offset address < size := by
      have first := (place 0).mp (reached 0 positive)
      have bounded : memory.offset address < 2 ^ 32 := UInt32.toNat_lt _
      rwa [Nat.add_zero, Nat.mod_eq_of_lt bounded] at first
    refine ⟨start, Nat.le_of_not_lt fun beyond => ?_⟩
    -- The byte right behind the window would have to lie in it.
    have behind := (place (size - memory.offset address)).mp (reached _ (by omega))
    rw [Nat.add_sub_cancel' (by omega), Nat.mod_eq_of_lt small] at behind
    exact Nat.lt_irrefl size behind

/-- Whatever was asked of a memory before, a read fills its whole buffer with the bytes of the map, and
only the stores that the window reaches make a difference to anything later. An access that the window
does not reach in full is worth one warning, which tells how many bytes it does not reach. A window
shorter than the address space can be peeked at exactly where it reaches every byte. -/
theorem refines_byteMap (base : UInt32) (size : Nat) (history : List Call) :
    let memory := (zeros base size).after history
    let cells := history.flatMap Call.cells
    (∀ address buffer, (memory.call (.read address buffer)).2.bytes =
      some ((List.range buffer.length).map fun distance =>
        shown base size cells (step address distance))) ∧
    (∀ other : List Call,
      (other.flatMap Call.cells).filter (fun cell => Reaches base size cell.1) =
        cells.filter (fun cell => Reaches base size cell.1) →
      (zeros base size).after other = memory) ∧
    (∀ call access address count, call.access? = some (access, address, count) → count < 2 ^ 31 →
      let warning : Notice := .unmapped access (missing base size address count) address
      (memory.call call).2.notices =
          (if missing base size address count = 0 then [] else [warning]) ∧
        warning.level = .warn ∧
        ∃ rest, warning.text =
          "RAM " ++ access.name ++ " of " ++ toString (missing base size address count) ++ rest) ∧
    (size < 2 ^ 32 → ∀ address buffer, 0 < buffer.length →
      let peeked := (memory.call (.peek address buffer.length)).2.bytes
      (peeked.isSome = true ↔
        ∀ distance < buffer.length, Reaches base size (step address distance)) ∧
      (peeked.isSome = true → peeked = (memory.call (.read address buffer)).2.bytes)) := by
  intro memory cells
  have windowed : memory.Windowed base size := windowed_after base size history
  refine ⟨fun address buffer => ?_, fun other same => ?_, ?_, fun small address buffer nonempty => ?_⟩
  · have bytes : memory.byteAt = shown base size cells := funext (byteAt_after base size history)
    simp [call, read, bytes]
  · have reached := foldl_store_filter (windowed_zeros base size) (other.flatMap Call.cells)
    rw [same, ← foldl_store_filter (windowed_zeros base size), ← after_eq_foldl] at reached
    exact reached.trans (after_eq_foldl ..).symm
  · intro call access address count accessed _ warning
    have remarks : (memory.call call).2.notices = memory.notices access address count := by
      cases call <;> cases accessed <;> rfl
    refine ⟨?_, rfl, exists_text_unmapped ..⟩
    rw [remarks, notices, windowed.unmapped_eq]
  · have held : (memory.peek? address buffer.length).isSome = true ↔ _ :=
      peek?_isSome_iff windowed small nonempty
    refine ⟨held, fun present => ?_⟩
    obtain ⟨start, whole⟩ := (peek?_isSome_iff_bounds ..).mp present
    exact peek?_eq_read start whole (by rw [windowed.2]; omega)

/-- A window of four bytes that lies across the end of the address space, and a load across the same
place. The first byte written lies in front of the window, and of the bytes read the last one lies
behind it. -/
theorem refines_byteMap_wrapped :
    let history : List Call := [.write 0xFFFFFFFD [1, 2, 3], .load 0xFFFFFFFF [9, 8]]
    let other : List Call :=
      [.write 0xFFFFFFFE [2], .peek 0 1, .load 2 [5, 5], .write 0xFFFFFFFF [3], .load 0xFFFFFFFF [9, 8]]
    let memory := (zeros 0xFFFFFFFE 4).after history
    let buffer : List UInt8 := [7, 7, 7, 7, 7, 7]
    (memory.call (.read 0xFFFFFFFD buffer)).2.bytes = some [0, 2, 9, 8, 0, 0] ∧
      buffer.length < 2 ^ 31 ∧
      (memory.call (.read 0xFFFFFFFD buffer)).2.notices = [.unmapped .read 2 0xFFFFFFFD] ∧
      (other.flatMap Call.cells).filter (fun cell => Reaches 0xFFFFFFFE 4 cell.1) =
        (history.flatMap Call.cells).filter (fun cell => Reaches 0xFFFFFFFE 4 cell.1) ∧
      (zeros 0xFFFFFFFE 4).after other = memory ∧
      (memory.call (.peek 0xFFFFFFFE 3)).2.bytes = (memory.call (.read 0xFFFFFFFE [7, 7, 7])).2.bytes ∧
      (memory.call (.peek 0 3)).2.bytes.isSome = false := by
  intro history other memory buffer
  obtain ⟨reads, stores, warns, peeks⟩ := refines_byteMap 0xFFFFFFFE 4 history
  have reached : (other.flatMap Call.cells).filter (fun cell => Reaches 0xFFFFFFFE 4 cell.1) =
      (history.flatMap Call.cells).filter (fun cell => Reaches 0xFFFFFFFE 4 cell.1) := by
    decide +kernel
  have short : buffer.length < 2 ^ 31 := by decide
  have two : missing 0xFFFFFFFE 4 0xFFFFFFFD buffer.length = 2 := by decide +kernel
  have whole : ∀ distance < 3, Reaches 0xFFFFFFFE 4 (step 0xFFFFFFFE distance) := by decide +kernel
  have beyond : ¬∀ distance < 3, Reaches 0xFFFFFFFE 4 (step 0 distance) := by decide +kernel
  have read := reads 0xFFFFFFFD buffer
  have bytes : (List.range buffer.length).map (fun distance =>
      shown 0xFFFFFFFE 4 (history.flatMap Call.cells) (step 0xFFFFFFFD distance)) =
        [0, 2, 9, 8, 0, 0] := by decide +kernel
  have warned := (warns (.read 0xFFFFFFFD buffer) .read 0xFFFFFFFD buffer.length rfl short).1
  obtain ⟨held, same⟩ := peeks (by decide) 0xFFFFFFFE [7, 7, 7] (by decide)
  rw [bytes] at read
  rw [two] at warned
  exact ⟨read, short, warned, reached, stores other reached, same (held.mpr whole),
    Bool.eq_false_iff.mpr (mt (peeks (by decide) 0 [7, 7, 7] (by decide)).1.mp beyond)⟩

end SoundCard.Memory
