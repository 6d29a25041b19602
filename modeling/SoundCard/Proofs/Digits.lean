import Mathlib.Algebra.Group.Nat.Defs
import SoundCard.Bytes.LittleEndian
import SoundCard.Column.Packing

/-!
# Digits lose nothing

A number is given back by its bytes if there are enough of them, and packed values are given back if
each of them is a digit of the base.
-/

set_option autoImplicit false

namespace SoundCard

namespace LittleEndian

theorem decode_encode {width value : Nat} (fits : value < 256 ^ width) :
    decode (encode width value) = value := by
  induction width generalizing value with
  | zero => simp at fits; simp [encode, decode, fits]
  | succ width ih =>
    have quotient : value / 256 < 256 ^ width := by
      rw [Nat.pow_succ] at fits
      omega
    rw [encode, decode, ih quotient, UInt8.toNat_ofNat']
    omega

theorem decode_lt (bytes : List UInt8) : decode bytes < 256 ^ bytes.length := by
  induction bytes with
  | nil => simp [decode]
  | cons byte rest ih =>
    have small := byte.toNat_lt
    rw [decode, List.length_cons, Nat.pow_succ]
    omega

end LittleEndian

namespace Packing

theorem base_pow_perByte_le (packing : Packing) : packing.base ^ packing.perByte ≤ 256 := by
  cases packing <;> decide

theorem ofDigits_lt {base : Nat} {digits : List UInt8}
    (small : ∀ digit ∈ digits, digit.toNat < base) :
    ofDigits base digits < base ^ digits.length := by
  induction digits with
  | nil => simp [ofDigits]
  | cons digit rest ih =>
    have here := small digit (List.mem_cons_self ..)
    have there := ih fun other member => small other (List.mem_cons_of_mem _ member)
    rw [ofDigits, List.length_cons, Nat.pow_succ]
    calc digit.toNat + base * ofDigits base rest
        < base + base * ofDigits base rest := by omega
      _ = base * (ofDigits base rest + 1) := by rw [Nat.mul_add, Nat.mul_one, Nat.add_comm]
      _ ≤ base * base ^ rest.length := Nat.mul_le_mul_left _ there
      _ = base ^ rest.length * base := Nat.mul_comm ..

private theorem toDigits_packed {packing : Packing} {values : List UInt8}
    (small : ∀ value ∈ values, value.toNat < packing.base) (few : values.length ≤ packing.perByte) :
    ∃ padding, toDigits packing.base packing.perByte
      (UInt8.ofNat (ofDigits packing.base values)).toNat = values ++ padding ∧
        padding.length = packing.perByte - values.length := by
  have bound : ofDigits packing.base values < 256 := calc
    ofDigits packing.base values < packing.base ^ values.length := ofDigits_lt small
    _ ≤ packing.base ^ packing.perByte := Nat.pow_le_pow_right packing.base_pos few
    _ ≤ 256 := packing.base_pow_perByte_le
  have kept : (UInt8.ofNat (ofDigits packing.base values)).toNat = ofDigits packing.base values := by
    rw [UInt8.toNat_ofNat', Nat.mod_eq_of_lt bound]
  obtain ⟨extra, total⟩ : ∃ extra, packing.perByte = values.length + extra :=
    ⟨packing.perByte - values.length, by omega⟩
  refine ⟨toDigits packing.base extra 0, ?_, ?_⟩
  · rw [kept, total, toDigits_ofDigits packing.base_le small]
  · have width : ∀ base count value, (toDigits base count value).length = count := by
      intro base count
      induction count with
      | zero => intro value; rfl
      | succ count ih => intro value; rw [toDigits, List.length_cons, ih]
    rw [width]
    omega

private theorem take_unpacked {packing : Packing} {bytes : Nat} {values : List UInt8}
    (small : ∀ value ∈ values, value.toNat < packing.base)
    (room : values.length ≤ bytes * packing.perByte) :
    ((packing.packInto bytes values).flatMap fun byte =>
      toDigits packing.base packing.perByte byte.toNat).take values.length = values := by
  induction bytes generalizing values with
  | zero =>
    have empty : values = [] := List.length_eq_zero_iff.mp (by omega)
    subst empty
    rfl
  | succ bytes ih =>
    have smallHead : ∀ value ∈ values.take packing.perByte, value.toNat < packing.base :=
      fun value member => small value (List.mem_of_mem_take member)
    have smallTail : ∀ value ∈ values.drop packing.perByte, value.toNat < packing.base :=
      fun value member => small value (List.mem_of_mem_drop member)
    obtain ⟨padding, digits, width⟩ := toDigits_packed smallHead (List.length_take_le ..)
    rw [packInto, List.flatMap_cons, digits]
    by_cases full : packing.perByte ≤ values.length
    · have headLength : (values.take packing.perByte).length = packing.perByte := by
        rw [List.length_take]
        omega
      have unpadded : padding = [] := List.length_eq_zero_iff.mp (by rw [width, headLength]; omega)
      have tail := ih smallTail (by rw [List.length_drop, Nat.succ_mul] at *; omega)
      rw [List.length_drop] at tail
      rw [unpadded, List.append_nil, List.take_append, headLength, tail,
        List.take_of_length_le (by rw [headLength]; exact full), List.take_append_drop]
    · have whole : values.take packing.perByte = values := List.take_of_length_le (by omega)
      rw [whole, List.append_assoc, List.take_append_of_le_length (Nat.le_refl _), List.take_length]

theorem unpack_pack {packing : Packing} {values : List UInt8}
    (small : ∀ value ∈ values, value.toNat < packing.base) :
    packing.unpack values.length (packing.pack values) = values := by
  refine take_unpacked small ?_
  have positive := packing.perByte_pos
  have division := Nat.div_add_mod (values.length + packing.perByte - 1) packing.perByte
  have rest := Nat.mod_lt (values.length + packing.perByte - 1) positive
  rw [size, Nat.mul_comm]
  omega

end Packing

end SoundCard
