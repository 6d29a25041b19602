/-!
# Packed digits

Small numbers are stored several to a byte, as the digits of a number in a small base. The first of
them is the least significant digit.
-/

set_option autoImplicit false

namespace SoundCard

inductive Packing where
  | whole
  | base16
  | base6
  | base4
  | base3
  | base2
  deriving DecidableEq, Repr

namespace Packing

def code : Packing → Nat
  | whole => 0
  | base16 => 1
  | base6 => 2
  | base4 => 3
  | base3 => 4
  | base2 => 5

def ofCode? : Nat → Option Packing
  | 0 => some whole
  | 1 => some base16
  | 2 => some base6
  | 3 => some base4
  | 4 => some base3
  | 5 => some base2
  | _ => none

def base : Packing → Nat
  | whole => 256
  | base16 => 16
  | base6 => 6
  | base4 => 4
  | base3 => 3
  | base2 => 2

def perByte : Packing → Nat
  | whole => 1
  | base16 => 2
  | base6 => 3
  | base4 => 4
  | base3 => 5
  | base2 => 8

def forLargest (largest : Nat) : Packing :=
  if largest ≤ 1 then base2
  else if largest ≤ 2 then base3
  else if largest ≤ 3 then base4
  else if largest ≤ 5 then base6
  else if largest ≤ 15 then base16
  else whole

/-- The number of bytes that `count` values take. The last byte may hold fewer values. -/
def size (packing : Packing) (count : Nat) : Nat :=
  (count + packing.perByte - 1) / packing.perByte

def ofDigits (base : Nat) : List UInt8 → Nat
  | [] => 0
  | digit :: rest => digit.toNat + base * ofDigits base rest

def toDigits (base : Nat) : Nat → Nat → List UInt8
  | 0, _ => []
  | count + 1, value => UInt8.ofNat (value % base) :: toDigits base count (value / base)

/-- The values in the given number of bytes; values beyond them are left out. -/
def packInto (packing : Packing) : Nat → List UInt8 → List UInt8
  | 0, _ => []
  | bytes + 1, values =>
    UInt8.ofNat (ofDigits packing.base (values.take packing.perByte)) ::
      packInto packing bytes (values.drop packing.perByte)

def pack (packing : Packing) (values : List UInt8) : List UInt8 :=
  packing.packInto (packing.size values.length) values

/-- The first `count` values of packed bytes. Whatever else the bytes hold is ignored. -/
def unpack (packing : Packing) (count : Nat) (bytes : List UInt8) : List UInt8 :=
  (bytes.flatMap fun byte => toDigits packing.base packing.perByte byte.toNat).take count

theorem lt_base_forLargest {largest : Nat} (small : largest < 256) :
    largest < (forLargest largest).base := by
  unfold forLargest
  repeat' split
  all_goals simp only [base]
  all_goals omega

theorem base_pos (packing : Packing) : 0 < packing.base := by
  cases packing <;> decide

theorem perByte_pos (packing : Packing) : 0 < packing.perByte := by
  cases packing <;> decide

theorem base_le (packing : Packing) : packing.base ≤ 256 := by
  cases packing <;> decide

/-- Reading off as many digits as there are, or more, gives them back, followed by zeros. -/
theorem toDigits_ofDigits {base : Nat} (most : base ≤ 256) {digits : List UInt8}
    (small : ∀ digit ∈ digits, digit.toNat < base) (extra : Nat) :
    toDigits base (digits.length + extra) (ofDigits base digits) =
      digits ++ toDigits base extra 0 := by
  induction digits with
  | nil => simp [ofDigits]
  | cons digit rest ih =>
    have here := small digit (List.mem_cons_self ..)
    have there := ih fun other member => small other (List.mem_cons_of_mem _ member)
    have low : (digit.toNat + base * ofDigits base rest) % base = digit.toNat := by
      rw [Nat.add_mul_mod_self_left, Nat.mod_eq_of_lt here]
    have high : (digit.toNat + base * ofDigits base rest) / base = ofDigits base rest := by
      rw [Nat.add_mul_div_left _ _ (by omega), Nat.div_eq_of_lt here, Nat.zero_add]
    rw [List.length_cons, Nat.add_right_comm, toDigits, ofDigits, low, high, there]
    simp

@[simp] theorem length_packInto (packing : Packing) (bytes : Nat) (values : List UInt8) :
    (packing.packInto bytes values).length = bytes := by
  induction bytes generalizing values with
  | zero => rfl
  | succ bytes ih => simp [packInto, ih]

@[simp] theorem length_pack (packing : Packing) (values : List UInt8) :
    (packing.pack values).length = packing.size values.length := by
  simp [pack]

end Packing

end SoundCard
