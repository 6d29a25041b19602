import SoundCard.Proofs.Memory
import SoundCard.Proofs.Observation

/-!
# What a call of a channel moves

The loops over the chunks of one call, whatever the backend answers: the bytes that a playback call
hands over are the bytes of memory from the cursor on, and those that a capture call stores are the
ones that the backend gave. A call then advances the cursor by as many bytes as it moved, and it
pulses the line of its channel exactly if it exhausted an enabled transfer. `Call` sums this up for
both channels.
-/

set_option autoImplicit false

namespace SoundCard

namespace Channel

theorem address_ne_remaining (channel other : Channel) : channel.address ≠ other.remaining := by
  cases channel <;> cases other <;> decide

theorem control_ne_remaining (channel other : Channel) : channel.control ≠ other.remaining := by
  cases channel <;> cases other <;> decide

theorem control_ne_address (channel other : Channel) : channel.control ≠ other.address := by
  cases channel <;> cases other <;> decide

theorem address_injective {channel other : Channel} (same : channel.address = other.address) :
    channel = other := by
  cases channel <;> cases other <;> first | rfl | cases same

theorem remaining_injective {channel other : Channel} (same : channel.remaining = other.remaining) :
    channel = other := by
  cases channel <;> cases other <;> first | rfl | cases same

end Channel

theorem toNat_pos_of_ne_zero {word : UInt32} (nonzero : word ≠ 0) : 0 < word.toNat :=
  Nat.pos_of_ne_zero fun zero => nonzero (UInt32.toNat_inj.mp zero)

namespace Bank

/-- The words after `count` bytes went over a channel. -/
def advance (bank : Bank) (channel : Channel) (count : Nat) : Bank :=
  (bank.set channel.address (Memory.step (bank.get channel.address) count)).set channel.remaining
    (bank.get channel.remaining - UInt32.ofNat count)

@[simp] theorem get_advance_address (bank : Bank) (channel : Channel) (count : Nat) :
    (bank.advance channel count).get channel.address =
      Memory.step (bank.get channel.address) count := by
  rw [advance, get_set, if_neg (channel.address_ne_remaining channel), get_set, if_pos rfl]

@[simp] theorem get_advance_remaining (bank : Bank) (channel : Channel) (count : Nat) :
    (bank.advance channel count).get channel.remaining =
      bank.get channel.remaining - UInt32.ofNat count := by
  rw [advance, get_set, if_pos rfl]

theorem get_advance_of_ne (bank : Bank) {channel : Channel} {register : Register} (count : Nat)
    (notAddress : register ≠ channel.address) (notRemaining : register ≠ channel.remaining) :
    (bank.advance channel count).get register = bank.get register := by
  rw [advance, get_set, if_neg notRemaining, get_set, if_neg notAddress]

@[simp] theorem enabled_advance (bank : Bank) (channel other : Channel) (count : Nat) :
    (bank.advance channel count).enabled other = bank.enabled other := by
  simp only [enabled, control]
  rw [get_advance_of_ne bank count (other.control_ne_address channel)
    (other.control_ne_remaining channel)]

@[simp] theorem advance_zero (bank : Bank) (channel : Channel) : bank.advance channel 0 = bank := by
  apply ext_get
  intro register
  by_cases isRemaining : register = channel.remaining
  · subst isRemaining
    simp
  · by_cases isAddress : register = channel.address
    · subst isAddress
      simp
    · exact get_advance_of_ne bank 0 isAddress isRemaining

theorem advance_advance (bank : Bank) (channel : Channel) (first second : Nat) :
    (bank.advance channel first).advance channel second = bank.advance channel (first + second) := by
  apply ext_get
  intro register
  by_cases isRemaining : register = channel.remaining
  · subst isRemaining
    rw [get_advance_remaining, get_advance_remaining, get_advance_remaining, UInt32.ofNat_add]
    rw [UInt32.sub_eq_add_neg, UInt32.sub_eq_add_neg, UInt32.sub_eq_add_neg, UInt32.neg_add,
      UInt32.sub_eq_add_neg, UInt32.add_assoc]
  · by_cases isAddress : register = channel.address
    · subst isAddress
      rw [get_advance_address, get_advance_address, get_advance_address, Memory.step_step]
    · rw [get_advance_of_ne _ _ isAddress isRemaining, get_advance_of_ne _ _ isAddress isRemaining,
        get_advance_of_ne _ _ isAddress isRemaining]

/-- As long as no more bytes are moved than remain, the count does not wrap around. -/
theorem toNat_get_advance_remaining {bank : Bank} {channel : Channel} {count : Nat}
    (fits : count ≤ (bank.get channel.remaining).toNat) :
    ((bank.advance channel count).get channel.remaining).toNat =
      (bank.get channel.remaining).toNat - count := by
  have small := (bank.get channel.remaining).toNat_lt
  have counted : (UInt32.ofNat count).toNat = count := by
    rw [UInt32.toNat_ofNat', Nat.mod_eq_of_lt (by omega)]
  rw [get_advance_remaining, UInt32.toNat_sub_of_le _ _ (by rw [UInt32.le_iff_toNat_le]; omega),
    counted]

/-- From the first words to the second an enabled channel ran out of bytes. -/
def Completes (before after : Bank) (channel : Channel) : Prop :=
  before.enabled channel = true ∧ before.get channel.remaining ≠ 0 ∧
    after.get channel.remaining = 0

instance (before after : Bank) (channel : Channel) : Decidable (before.Completes after channel) :=
  inferInstanceAs (Decidable (_ ∧ _ ∧ _))

theorem not_completes_self (bank : Bank) (channel : Channel) : ¬bank.Completes bank channel :=
  fun ⟨_, unfinished, finished⟩ => unfinished finished

/-- Moving bytes over a channel completes it if they are all that remain of an enabled transfer. -/
theorem completes_advance_iff {bank : Bank} {channel : Channel} {count : Nat}
    (fits : count ≤ (bank.get channel.remaining).toNat) :
    bank.Completes (bank.advance channel count) channel ↔
      bank.enabled channel = true ∧ 0 < (bank.get channel.remaining).toNat ∧
        count = (bank.get channel.remaining).toNat := by
  have left := toNat_get_advance_remaining fits
  have drained : (bank.advance channel count).get channel.remaining = 0 ↔
      count = (bank.get channel.remaining).toNat := by
    rw [← UInt32.toNat_inj, left, UInt32.toNat_zero]
    omega
  have started : bank.get channel.remaining ≠ 0 ↔ 0 < (bank.get channel.remaining).toNat := by
    rw [ne_eq, ← UInt32.toNat_inj, UInt32.toNat_zero]
    omega
  unfold Completes
  rw [drained, started]

end Bank

namespace Device

open SoundCard.Action

variable {σ : Type}

/-!
## Calls
-/

/-- What a call of a channel does to the words and the lines, told by the bytes that it moves. -/
structure Call (channel : Channel) (before after : Bank) (actions : List Action) : Prop where
  bounded : (carried channel actions).length ≤ (before.get channel.remaining).toNat
  words : after = before.advance channel (carried channel actions).length
  others : ∀ other, other ≠ channel → carried other actions = []
  lines : driven actions =
    pulses (if before.Completes after channel then [channel.line] else [])

private theorem Call.idle (channel called : Channel) (bank : Bank) (budget : Nat)
    (remaining : UInt32) :
    Call channel bank bank [.notice (.called called budget remaining)] := by
  have silent : ∀ other, carried other [.notice (.called called budget remaining)] = [] := by
    intro other
    cases other <;> rfl
  refine ⟨?_, ?_, fun other _ => silent other, ?_⟩
  · rw [silent]
    exact Nat.zero_le _
  · rw [silent, List.length_nil, Bank.advance_zero]
  · rw [if_neg (bank.not_completes_self channel)]
    rfl

/-- Booking the moved bytes pulses the line of the channel exactly if they were the last ones of an
enabled transfer. -/
theorem settle_eq {device : Device σ} {channel : Channel} {count : Nat}
    (fits : count ≤ (device.registers.get channel.remaining).toNat) :
    device.settle channel count =
      ({ device with registers := device.registers.advance channel count },
        .notice (.transferred channel (UInt32.ofNat count)) ::
          .event (.transfer channel (UInt32.ofNat count)) ::
            if device.registers.Completes (device.registers.advance channel count) channel
            then pulse channel.line else []) := by
  have left := Bank.toNat_get_advance_remaining fits
  have complete :
      ((device.registers.advance channel count).enabled channel &&
        device.registers.get channel.remaining - UInt32.ofNat count == 0 &&
          decide (0 < count)) = true ↔
        device.registers.Completes (device.registers.advance channel count) channel := by
    rw [Bank.completes_advance_iff fits, Bank.enabled_advance, Bool.and_eq_true, Bool.and_eq_true,
      beq_iff_eq, decide_eq_true_eq, ← Bank.get_advance_remaining, ← UInt32.toNat_inj, left,
      UInt32.toNat_zero]
    constructor
    · rintro ⟨⟨enabled, all⟩, positive⟩
      exact ⟨enabled, by omega, by omega⟩
    · rintro ⟨enabled, positive, all⟩
      exact ⟨⟨enabled, by omega⟩, by omega⟩
  exact congrArg (fun pulsed => (_, _ :: _ :: pulsed))
    (ite_congr (propext complete) (fun _ => rfl) fun _ => rfl)

theorem carried_settle (device : Device σ) (channel other : Channel) (count : Nat) :
    carried other (device.settle channel count).2 = [] := by
  unfold settle
  dsimp only
  split <;> cases other <;> rfl

private theorem Call.settled (device : Device σ) {channel : Channel} {count : Nat}
    {called : Notice} {actions : List Action}
    (fits : count ≤ (device.registers.get channel.remaining).toNat)
    (length : (carried channel actions).length = count)
    (others : ∀ other, other ≠ channel → carried other actions = [])
    (undriven : driven actions = []) :
    Call channel device.registers (device.settle channel count).1.registers
      (.notice called :: actions ++ (device.settle channel count).2) := by
  have bytes : ∀ other,
      carried other (.notice called :: actions ++ (device.settle channel count).2) =
        carried other actions := by
    intro other
    rw [carried_append, carried_settle, List.append_nil, carried_cons]
    cases other <;> rfl
  refine ⟨?_, ?_, ?_, ?_⟩
  · rwa [bytes, length]
  · rw [bytes, length]
    rfl
  · intro other different
    rw [bytes, others other different]
  · rw [driven_append, driven_cons, undriven, settle_eq fits]
    dsimp only
    split <;> rfl

section

variable [Backend σ]

/-!
## Chunks
-/

private theorem offer_spec (memory : Memory) (address : UInt32) (offer answer : Nat) :
    let actions := Action.fetched address offer ::
      (memory.notices .read address offer).map .notice ++
        [.played (memory.read address offer) answer]
    carried .playback actions = memory.read address (min answer offer) ∧
      carried .capture actions = [] ∧ driven actions = [] := by
  simp [driven?, moved, accepted, acquired, Memory.take_read]

/-- Whatever the backend answers, the bytes that it takes are those from the cursor on, each of
them once. -/
theorem playChunks_spec (memory : Memory) (backend : σ) (address : UInt32) (want : Nat) :
    let played := playChunks memory backend address want
    played.count ≤ want ∧
      carried .playback played.actions = memory.read address played.count ∧
      carried .capture played.actions = [] ∧ driven played.actions = [] := by
  fun_induction playChunks memory backend address want with
  | case1 => exact ⟨Nat.le_refl _, rfl, rfl, rfl⟩
  | case2 backend address want _ offer chunk answer _ _ actions taken stalled =>
      obtain ⟨bytes, others, lines⟩ := offer_spec memory address offer answer
      have nothing : min answer offer = 0 := stalled
      rw [nothing] at bytes
      exact ⟨Nat.zero_le _, bytes, others, lines⟩
  | case3 backend address want _ offer chunk answer next _ actions taken _ rest ih =>
      obtain ⟨bytes, others, lines⟩ := offer_spec memory address offer answer
      obtain ⟨restCount, restBytes, restOthers, restLines⟩ := ih
      refine ⟨?_, ?_, ?_, ?_⟩
      · have offered : taken ≤ want := Nat.le_trans (Nat.min_le_right ..) (Nat.min_le_left ..)
        exact Nat.add_le_of_le_sub' offered restCount
      · rw [carried_append, Memory.read_add]
        exact congr (congrArg HAppend.hAppend bytes) restBytes
      · rw [carried_append]
        exact congr (congrArg HAppend.hAppend others) restOthers
      · rw [driven_append]
        exact congr (congrArg HAppend.hAppend lines) restLines

private theorem fill_spec (memory : Memory) (address : UInt32) (buffer : List UInt8)
    (room answer : Nat) :
    let actions := Action.recorded room (buffer.take room) answer ::
      .stored address (buffer.take (min answer room)) ::
        (memory.notices .write address (min answer room)).map .notice
    carried .capture actions = buffer.take (min answer room) ∧
      carried .playback actions = [] ∧ driven actions = [] := by
  simp [driven?, moved, accepted, acquired, List.take_take]

/-- Whatever the backend answers, the bytes that it gives go to memory from the cursor on, each of
them once. -/
theorem captureChunks_spec (memory : Memory) (backend : σ) (staging : List UInt8)
    (address : UInt32) (want : Nat) (room : min want stagingSize ≤ staging.length) :
    let captured := captureChunks memory backend staging address want
    captured.count ≤ want ∧
      (carried .capture captured.actions).length = captured.count ∧
      captured.memory = memory.write address (carried .capture captured.actions) ∧
      carried .playback captured.actions = [] ∧ driven captured.actions = [] := by
  fun_induction captureChunks memory backend staging address want with
  | case1 => exact ⟨Nat.le_refl _, rfl, rfl, rfl, rfl⟩
  | case2 memory backend staging address want _ offered fill next _ buffer call taken stalled =>
      have nothing : (buffer.take offered).take fill.answer = [] := by
        rw [List.take_take, show min fill.answer offered = 0 from stalled, List.take_zero]
      have bytes : carried .capture [call] = [] := by
        simpa [call, moved, acquired] using nothing
      refine ⟨Nat.zero_le _, ?_, ?_, rfl, rfl⟩
      · rw [bytes]
        rfl
      · rw [bytes]
        rfl
  | case3 memory backend staging address want _ offered fill next _ buffer call taken _ stored
      actions rest ih =>
      obtain ⟨bytes, others, lines⟩ := fill_spec memory address buffer offered fill.answer
      have kept : buffer.length = staging.length := Fill.length_into room
      have takenLength : stored.length = taken := by
        have within : taken ≤ offered := Nat.min_le_right ..
        rw [List.length_take]
        omega
      obtain ⟨restCount, restLength, restMemory, restOthers, restLines⟩ := ih (by omega)
      have all : carried .capture (actions ++ rest.actions) =
          stored ++ carried .capture rest.actions := by
        rw [carried_append]
        exact congrArg (· ++ _) bytes
      refine ⟨?_, ?_, ?_, ?_, ?_⟩
      · have offer : taken ≤ want := Nat.le_trans (Nat.min_le_right ..) (Nat.min_le_left ..)
        exact Nat.add_le_of_le_sub' offer restCount
      · rw [all, List.length_append, takenLength]
        exact congrArg (taken + ·) restLength
      · rw [all, Memory.write_append, takenLength]
        exact restMemory
      · rw [carried_append]
        exact congr (congrArg HAppend.hAppend others) restOthers
      · rw [driven_append]
        exact congr (congrArg HAppend.hAppend lines) restLines

/-!
## Both callbacks
-/

theorem playbackReady_call (device : Device σ) (memory : Memory) (free : Nat) :
    Call .playback device.registers (device.playbackReady memory free).1.registers
      (device.playbackReady memory free).2 := by
  unfold playbackReady
  dsimp only
  split
  · exact Call.idle ..
  · obtain ⟨count, bytes, others, lines⟩ := playChunks_spec memory device.backend
      (device.registers.get .playbackAddress)
      (min (device.registers.get .playbackRemaining).toNat free)
    refine Call.settled { device with backend := _ } ?_ ?_ ?_ lines
    · exact Nat.le_trans count (Nat.min_le_left ..)
    · rw [bytes, Memory.length_read]
    · intro other different
      cases other with
      | playback => exact absurd rfl different
      | capture => exact others

theorem carried_playbackReady (device : Device σ) (memory : Memory) (free : Nat) :
    let bytes := carried .playback (device.playbackReady memory free).2
    bytes = memory.read (device.registers.get .playbackAddress) bytes.length := by
  unfold playbackReady
  dsimp only
  split
  · rfl
  · obtain ⟨_, bytes, _, _⟩ := playChunks_spec memory device.backend
      (device.registers.get .playbackAddress)
      (min (device.registers.get .playbackRemaining).toNat free)
    dsimp only
    rw [carried_append, carried_settle, List.append_nil, carried_cons, bytes]
    simp [moved, accepted]

theorem length_carried_playbackReady (device : Device σ) (memory : Memory) (free : Nat) :
    (carried .playback (device.playbackReady memory free).2).length =
      (playChunks memory device.backend (device.registers.get .playbackAddress)
        (min (device.registers.get .playbackRemaining).toNat free)).count := by
  unfold playbackReady
  dsimp only
  split
  · next unwanted =>
    rw [unwanted, playChunks, if_pos rfl]
    rfl
  · obtain ⟨_, bytes, _, _⟩ := playChunks_spec memory device.backend
      (device.registers.get .playbackAddress)
      (min (device.registers.get .playbackRemaining).toNat free)
    dsimp only
    rw [carried_append, carried_settle, List.append_nil, carried_cons, bytes]
    exact Memory.length_read ..

theorem captureReady_call (device : Device σ) (memory : Memory) (available : Nat) :
    Call .capture device.registers (device.captureReady memory available).1.registers
      (device.captureReady memory available).2.2 := by
  unfold captureReady
  dsimp only
  split
  · exact Call.idle ..
  · obtain ⟨count, length, _, others, lines⟩ := captureChunks_spec memory device.backend
      (List.replicate (min (min (device.registers.get .captureRemaining).toNat available)
        stagingSize) 0)
      (device.registers.get .captureAddress)
      (min (device.registers.get .captureRemaining).toNat available) (by simp)
    refine Call.settled { device with backend := _ } ?_ length ?_ lines
    · exact Nat.le_trans count (Nat.min_le_left ..)
    · intro other different
      cases other with
      | playback => exact others
      | capture => exact absurd rfl different

theorem length_carried_captureReady (device : Device σ) (memory : Memory) (available : Nat) :
    let want := min (device.registers.get .captureRemaining).toNat available
    (carried .capture (device.captureReady memory available).2.2).length =
      (captureChunks memory device.backend (List.replicate (min want stagingSize) 0)
        (device.registers.get .captureAddress) want).count := by
  unfold captureReady
  dsimp only
  split
  · next unwanted =>
    rw [unwanted, captureChunks, if_pos rfl]
    rfl
  · obtain ⟨_, length, _, _, _⟩ := captureChunks_spec memory device.backend
      (List.replicate (min (min (device.registers.get .captureRemaining).toNat available)
        stagingSize) 0)
      (device.registers.get .captureAddress)
      (min (device.registers.get .captureRemaining).toNat available) (by simp)
    dsimp only
    rw [carried_append, carried_settle, List.append_nil, carried_cons]
    exact length

theorem memory_captureReady (device : Device σ) (memory : Memory) (available : Nat) :
    (device.captureReady memory available).2.1 =
      memory.write (device.registers.get .captureAddress)
        (carried .capture (device.captureReady memory available).2.2) := by
  unfold captureReady
  dsimp only
  split
  · rfl
  · obtain ⟨_, _, stored, _, _⟩ := captureChunks_spec memory device.backend
      (List.replicate (min (min (device.registers.get .captureRemaining).toNat available)
        stagingSize) 0)
      (device.registers.get .captureAddress)
      (min (device.registers.get .captureRemaining).toNat available) (by simp)
    dsimp only
    rw [carried_append, carried_settle, List.append_nil, carried_cons, stored]
    rfl

end

end Device

end SoundCard
