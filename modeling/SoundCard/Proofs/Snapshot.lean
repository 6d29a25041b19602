import SoundCard.Device
import SoundCard.Proofs.Digits

/-!
# Snapshots lose nothing

A column read back gives the values that were written, and leaves what follows it alone. The width
and the packing of a column are chosen from the least and the greatest value, between which all of
its values lie, so that counting from the least one does not wrap around. A card restored from what
another one saved has the words of that card.
-/

set_option autoImplicit false

namespace SoundCard

theorem splitBytes?_append (front rest : List UInt8) :
    splitBytes? front.length (front ++ rest) = some (front, rest) := by
  unfold splitBytes?
  rw [if_pos (by simp)]
  simp [List.splitAt_eq]

private theorem max?_getD_lt {numbers : List Nat} {bound : Nat} (positive : 0 < bound)
    (small : ∀ number ∈ numbers, number < bound) : numbers.max?.getD 0 < bound := by
  cases found : numbers.max? with
  | none => exact positive
  | some most => exact small most (List.max?_mem found)

namespace ByteColumn

private theorem decode?_plain {count : Nat} (long : ¬count ≤ 2) (packing : Packing)
    {input packed rest : List UInt8}
    (split : splitBytes? (packing.size count) input = some (packed, rest)) :
    decode? count (UInt8.ofNat (2 * packing.code) :: input) =
      some (packing.unpack count packed, rest) := by
  cases packing <;> simp [decode?, long, Packing.code, Packing.ofCode?, split]

private theorem decode?_shifted {count : Nat} (long : ¬count ≤ 2) {packing : Packing}
    (dense : 0 < packing.code) (least : UInt8) {input packed rest : List UInt8}
    (split : splitBytes? (packing.size count) input = some (packed, rest)) :
    decode? count (UInt8.ofNat (2 * packing.code - 1) :: least :: input) =
      some ((packing.unpack count packed).map (· + least), rest) := by
  cases packing <;> simp [decode?, long, Packing.code, Packing.ofCode?, split] at dense ⊢

private theorem split_pack {packing : Packing} {values : List UInt8}
    (small : ∀ value ∈ values, value.toNat < packing.base) (rest : List UInt8) :
    splitBytes? (packing.size values.length) (packing.pack values ++ rest) =
        some (packing.pack values, rest) ∧
      packing.unpack values.length (packing.pack values) = values := by
  refine ⟨?_, Packing.unpack_pack small⟩
  rw [← Packing.length_pack]
  exact splitBytes?_append ..

theorem decode?_encode (values rest : List UInt8) :
    decode? values.length (encode values ++ rest) = some (values, rest) := by
  by_cases short : values.length ≤ 2
  · rw [encode, if_pos short, decode?, if_pos short]
    exact splitBytes?_append values rest
  · have bounds : ∀ value ∈ values,
        (values.map UInt8.toNat).min?.getD 0 ≤ value.toNat ∧
          value.toNat ≤ (values.map UInt8.toNat).max?.getD 0 := by
      intro value member
      have listed : value.toNat ∈ values.map UInt8.toNat := List.mem_map_of_mem member
      exact ⟨List.min?_getD_le_of_mem listed, List.le_max?_getD_of_mem listed⟩
    have mostSmall : (values.map UInt8.toNat).max?.getD 0 < 256 := by
      refine max?_getD_lt (by decide) ?_
      intro number member
      obtain ⟨value, _, rfl⟩ := List.mem_map.mp member
      exact value.toNat_lt
    rw [encode, if_neg short]
    dsimp only
    generalize (values.map UInt8.toNat).min?.getD 0 = least at bounds ⊢
    generalize (values.map UInt8.toNat).max?.getD 0 = most at bounds mostSmall ⊢
    split
    · next shifted =>
        have counted : ∀ value ∈ values,
            (value - UInt8.ofNat least).toNat = value.toNat - least := by
          intro value member
          have small := value.toNat_lt
          have low := (bounds value member).1
          have leastKept : (UInt8.ofNat least).toNat = least := by
            rw [UInt8.toNat_ofNat', Nat.mod_eq_of_lt (by omega)]
          rw [UInt8.toNat_sub_of_le _ _ (by rw [UInt8.le_iff_toNat_le]; omega), leastKept]
        have digits : ∀ value ∈ values.map (· - UInt8.ofNat least),
            value.toNat < (Packing.forLargest (most - least)).base := by
          intro digit member
          obtain ⟨value, listed, rfl⟩ := List.mem_map.mp member
          have narrow : most - least < 256 := by omega
          have fits := Packing.lt_base_forLargest narrow
          obtain ⟨low, high⟩ := bounds value listed
          rw [counted value listed]
          omega
        obtain ⟨packed, unpacked⟩ := split_pack digits rest
        rw [List.length_map] at packed unpacked
        rw [List.cons_append, List.cons_append,
          decode?_shifted short (Nat.lt_of_le_of_lt (Nat.zero_le _) shifted.1) _ packed, unpacked]
        simp [Function.comp_def]
    · have digits : ∀ value ∈ values, value.toNat < (Packing.forLargest most).base :=
        fun value member =>
          Nat.lt_of_le_of_lt (bounds value member).2 (Packing.lt_base_forLargest mostSmall)
      obtain ⟨packed, unpacked⟩ := split_pack digits rest
      rw [List.cons_append, decode?_plain short _ packed, unpacked]

end ByteColumn

namespace WordColumn

private def Width.limit : Width → Nat
  | .four => 2 ^ 32
  | .two => 2 ^ 16
  | .one => 2 ^ 8

private theorem Width.lt_limit_forLargest {largest : Nat} (small : largest < 2 ^ 32) :
    largest < (forLargest largest).limit := by
  unfold forLargest
  split
  · show largest < 2 ^ 8
    omega
  · split
    · show largest < 2 ^ 16
      omega
    · exact small

theorem length_wide (width : Nat) (values : List UInt32) :
    (wide width values).length = width * values.length := by
  induction values with
  | nil => rfl
  | cons value rest ih =>
      rw [wide, List.flatMap_cons, List.length_append, LittleEndian.length_encode,
        List.length_cons, Nat.mul_succ, Nat.add_comm, ← ih]
      rfl

theorem ofWide_wide {width : Nat} {values : List UInt32}
    (small : ∀ value ∈ values, value.toNat < 256 ^ width) :
    ofWide width values.length (wide width values) = values := by
  induction values with
  | nil => rfl
  | cons value rest ih =>
      obtain ⟨smallFirst, smallRest⟩ := List.forall_mem_cons.mp small
      have here := LittleEndian.decode_encode smallFirst
      have others := ih smallRest
      have length := LittleEndian.length_encode width value.toNat
      rw [wide, List.flatMap_cons, List.length_cons, ofWide, List.take_left' length,
        List.drop_left' length, here, UInt32.ofNat_toNat]
      exact congrArg (value :: ·) others

private theorem load?_store {width : Width} {values : List UInt32}
    (small : ∀ value ∈ values, value.toNat < width.limit) (rest : List UInt8) :
    load? values.length (store values width ++ rest) width = some (values, rest) := by
  have wideSplit : ∀ bytes, splitBytes? (bytes * values.length) (wide bytes values ++ rest) =
      some (wide bytes values, rest) := by
    intro bytes
    rw [← length_wide]
    exact splitBytes?_append ..
  cases width with
  | four =>
      rw [store, load?, wideSplit]
      exact congrArg (fun read => some (read, rest)) (ofWide_wide small)
  | two =>
      rw [store, load?, wideSplit]
      exact congrArg (fun read => some (read, rest)) (ofWide_wide small)
  | one =>
      have narrow := ByteColumn.decode?_encode (values.map UInt32.toUInt8) rest
      rw [List.length_map] at narrow
      rw [store, load?, narrow]
      have widened : (values.map UInt32.toUInt8).map UInt8.toUInt32 = values := by
        rw [List.map_map]
        refine (List.map_congr_left fun value member => ?_).trans (List.map_id values)
        have low : value.toNat < 2 ^ 8 := small value member
        apply UInt32.toNat_inj.mp
        simpa using low
      exact congrArg (fun read => some (read, rest)) widened

private theorem decode?_plain {count : Nat} (width : Width) {input : List UInt8}
    {values : List UInt32} {rest : List UInt8}
    (loaded : load? count input width = some (values, rest)) :
    decode? count (UInt8.ofNat (2 * width.code) :: input) = some (values, rest) := by
  cases width <;> simp [decode?, Width.code, Width.ofCode?, loaded]

private theorem decode?_shifted {count : Nat} {width : Width} (narrow : 0 < width.code)
    {least : Nat} (small : least < 2 ^ 32) {input : List UInt8} {values : List UInt32}
    {rest : List UInt8} (loaded : load? count input width = some (values, rest)) :
    decode? count (UInt8.ofNat (2 * width.code - 1) :: (LittleEndian.encode 4 least ++ input)) =
      some (values.map (· + UInt32.ofNat least), rest) := by
  have front : splitBytes? 4 (LittleEndian.encode 4 least ++ input) =
      some (LittleEndian.encode 4 least, input) := by
    have split := splitBytes?_append (LittleEndian.encode 4 least) input
    rwa [LittleEndian.length_encode] at split
  have read : LittleEndian.decode (LittleEndian.encode 4 least) = least :=
    LittleEndian.decode_encode small
  cases width <;> simp [decode?, Width.code, Width.ofCode?, front, read, loaded] at narrow ⊢

theorem decode?_encode (values : List UInt32) (rest : List UInt8) :
    decode? values.length (encode values ++ rest) = some (values, rest) := by
  have bounds : ∀ value ∈ values,
      (values.map UInt32.toNat).min?.getD 0 ≤ value.toNat ∧
        value.toNat ≤ (values.map UInt32.toNat).max?.getD 0 := by
    intro value member
    have listed : value.toNat ∈ values.map UInt32.toNat := List.mem_map_of_mem member
    exact ⟨List.min?_getD_le_of_mem listed, List.le_max?_getD_of_mem listed⟩
  have mostSmall : (values.map UInt32.toNat).max?.getD 0 < 2 ^ 32 := by
    refine max?_getD_lt (by decide) ?_
    intro number member
    obtain ⟨value, _, rfl⟩ := List.mem_map.mp member
    exact value.toNat_lt
  rw [encode]
  generalize (values.map UInt32.toNat).min?.getD 0 = least at bounds ⊢
  generalize (values.map UInt32.toNat).max?.getD 0 = most at bounds mostSmall ⊢
  split
  · next shifted =>
      have leastSmall : least < 2 ^ 32 := by
        cases values with
        | nil => exact absurd shifted.2 (by simp)
        | cons value others =>
            exact Nat.lt_of_le_of_lt (bounds value List.mem_cons_self).1 value.toNat_lt
      have counted : ∀ value ∈ values,
          (value - UInt32.ofNat least).toNat = value.toNat - least := by
        intro value member
        have low := (bounds value member).1
        have leastKept : (UInt32.ofNat least).toNat = least := by
          rw [UInt32.toNat_ofNat', Nat.mod_eq_of_lt leastSmall]
        rw [UInt32.toNat_sub_of_le _ _ (by rw [UInt32.le_iff_toNat_le]; omega), leastKept]
      have small : ∀ value ∈ values.map (· - UInt32.ofNat least),
          value.toNat < (Width.forLargest (most - least)).limit := by
        intro difference member
        obtain ⟨value, listed, rfl⟩ := List.mem_map.mp member
        have narrow : most - least < 2 ^ 32 := by omega
        have fits := Width.lt_limit_forLargest narrow
        obtain ⟨low, high⟩ := bounds value listed
        rw [counted value listed]
        omega
      have loaded := load?_store small rest
      rw [List.length_map] at loaded
      rw [List.cons_append, List.cons_append, List.append_assoc,
        decode?_shifted (Nat.lt_of_le_of_lt (Nat.zero_le _) shifted.1) leastSmall loaded]
      simp [Function.comp_def]
  · have small : ∀ value ∈ values, value.toNat < (Width.forLargest most).limit :=
      fun value member =>
        Nat.lt_of_le_of_lt (bounds value member).2 (Width.lt_limit_forLargest mostSmall)
    rw [List.cons_append, decode?_plain _ (load?_store small rest)]

end WordColumn

theorem Bank.ofWords_toWords (bank : Bank) : Bank.ofWords bank.toWords = bank := by
  have words : (Vector.ofFn fun index : Fin Register.count => bank.toWords.getD index 0) =
      bank.words := by
    apply Vector.ext
    intro index small
    simp [toWords]
  cases bank
  exact congrArg Bank.mk words

namespace Snapshot

theorem decode?_encode (snapshot : Snapshot) : decode? (encode snapshot) = some snapshot := by
  have version := WordColumn.decode?_encode [snapshot.version]
    (WordColumn.encode snapshot.registers.toWords)
  have words := WordColumn.decode?_encode snapshot.registers.toWords []
  have length : snapshot.registers.toWords.length = Register.count := by
    simp [Bank.toWords]
  rw [length, List.append_nil] at words
  unfold decode? encode
  rw [show (1 : Nat) = [snapshot.version].length from rfl, version]
  simp [words, Bank.ofWords_toWords]

theorem restore_save {σ : Type} (device : Device σ) : restore device.save = .ok device.registers := by
  unfold restore Device.save
  rw [decode?_encode]
  rfl

end Snapshot

end SoundCard
