import Mathlib.Algebra.GroupWithZero.Nat
import SoundCard.Proofs.Transfer

/-!
# The schedule of a call

A call of a channel moves its bytes in chunks. Each chunk is decided by the answers to those before
it: it starts where they got to, it is as large as the staging buffer and what is left to move allow,
and it is the last one if the backend takes or gives nothing or if nothing is left afterwards. Nothing
is assumed of the answers. A call without anything to move makes no chunk and has no effect.
-/

set_option autoImplicit false

namespace SoundCard

theorem Memory.notices_write (memory : Memory) (access : Access) (address cursor : UInt32)
    (bytes : List UInt8) (count : Nat) :
    (memory.write address bytes).notices access cursor count =
      memory.notices access cursor count := by
  have same : (memory.write address bytes).unmapped cursor count = memory.unmapped cursor count := by
    simp only [unmapped, maps_write]
  unfold notices
  rw [same]

/-- What the backend stored stands at the front of the buffer. -/
theorem Fill.stored_prefix_into (fill : Fill) (room : Nat) (buffer : List UInt8) :
    fill.stored.take room <+: (fill.into room buffer).take room := by
  have short : (fill.stored.take room).length ≤ room := List.length_take_le ..
  unfold into
  rw [List.take_append, List.take_of_length_le short]
  exact List.prefix_append ..

/-- One exchange of a call with the backend. The bytes are those of the staging buffer that the call
showed to the backend: what it offered for playback, or what it found there after the capture. -/
structure Chunk where
  cursor : UInt32
  bytes : List UInt8
  answer : Nat

namespace Chunk

def offer (chunk : Chunk) : Nat :=
  chunk.bytes.length

/-- How many bytes the chunk moved: what the backend answered, but never more than it was offered. -/
def taken (chunk : Chunk) : Nat :=
  min chunk.answer chunk.offer

def moved (chunks : List Chunk) : Nat :=
  (chunks.map taken).sum

def store (memory : Memory) (chunk : Chunk) : Memory :=
  memory.write chunk.cursor (chunk.bytes.take chunk.taken)

/-- What the card does for one chunk, with the remarks of the memory on it. -/
def actions (memory : Memory) (channel : Channel) (chunk : Chunk) : List Action :=
  match channel with
  | .playback =>
    .fetched chunk.cursor chunk.offer ::
      (memory.notices .read chunk.cursor chunk.offer).map .notice ++
        [.played chunk.bytes chunk.answer]
  | .capture =>
    .recorded chunk.offer chunk.bytes chunk.answer ::
      if chunk.taken = 0 then [] else
        .stored chunk.cursor (chunk.bytes.take chunk.taken) ::
          (memory.notices .write chunk.cursor chunk.taken).map .notice

/-- The backend gave these answers one after the other. What a capture voice stored is what the call
found at the front of its buffer. -/
inductive Answers {σ : Type} [Backend σ] : Channel → σ → List Chunk → σ → Prop where
  | none (channel : Channel) (backend : σ) : Answers channel backend [] backend
  | play {backend next last : σ} {chunk : Chunk} {rest : List Chunk}
      (played : Backend.play backend chunk.bytes = (chunk.answer, next))
      (later : Answers .playback next rest last) :
      Answers .playback backend (chunk :: rest) last
  | record {backend next last : σ} {fill : Fill} {chunk : Chunk} {rest : List Chunk}
      (recorded : Backend.record backend chunk.offer = (fill, next))
      (answer : fill.answer = chunk.answer) (stored : fill.stored.take chunk.offer <+: chunk.bytes)
      (later : Answers .capture next rest last) :
      Answers .capture backend (chunk :: rest) last

/-!
## Schedules
-/

/-- The chunks in which `want` bytes are moved from an address on, one after the other. -/
inductive Follow : UInt32 → Nat → List Chunk → Prop where
  | done (address : UInt32) : Follow address 0 []
  | stall {want : Nat} {chunk : Chunk} (more : 0 < want)
      (offer : chunk.offer = min want Device.stagingSize) (nothing : chunk.taken = 0) :
      Follow chunk.cursor want [chunk]
  | move {want : Nat} {chunk : Chunk} {rest : List Chunk}
      (offer : chunk.offer = min want Device.stagingSize) (something : 0 < chunk.taken)
      (later : Follow (Memory.step chunk.cursor chunk.taken) (want - chunk.taken) rest) :
      Follow chunk.cursor want (chunk :: rest)

/-- Each chunk told by the answers to those before it, and the last one by its own answer as well. -/
structure Scheduled (address : UInt32) (want : Nat) (chunks : List Chunk) : Prop where
  cursor : ∀ (index : Nat) (inside : index < chunks.length),
    chunks[index].cursor = Memory.step address (moved (chunks.take index))
  offer : ∀ (index : Nat) (inside : index < chunks.length),
    chunks[index].offer = min (want - moved (chunks.take index)) Device.stagingSize
  bounded : ∀ index, moved (chunks.take index) ≤ want
  last : ∀ (index : Nat) (inside : index < chunks.length),
    chunks[index].taken = 0 ∨ moved (chunks.take (index + 1)) = want ↔ index + 1 = chunks.length

@[simp] theorem moved_nil : moved [] = 0 := rfl

@[simp] theorem moved_cons (chunk : Chunk) (rest : List Chunk) :
    moved (chunk :: rest) = chunk.taken + moved rest := rfl

/-- A debugger does not hear of single chunks. -/
theorem events_actions (memory : Memory) (channel : Channel) (chunks : List Chunk) :
    Action.events (chunks.flatMap (actions memory channel)) = [] := by
  induction chunks with
  | nil => rfl
  | cons chunk rest ih =>
      have unheard : Action.events (chunk.actions memory channel) = [] := by
        cases channel with
        | playback => simp [actions, Action.event?]
        | capture => by_cases nothing : chunk.taken = 0 <;> simp [actions, Action.event?, nothing]
      rw [List.flatMap_cons, Action.events_append, unheard, ih]
      rfl

theorem taken_le (chunk : Chunk) : chunk.taken ≤ chunk.offer :=
  Nat.min_le_right ..

namespace Follow

variable {address : UInt32} {want : Nat} {chunks : List Chunk}

theorem eq_nil_iff (follow : Follow address want chunks) : chunks = [] ↔ want = 0 := by
  cases follow with
  | done => exact iff_of_true rfl rfl
  | stall more => exact iff_of_false nofun (Nat.ne_of_gt more)
  | @move _ chunk _ offer something =>
      have within := chunk.taken_le
      exact iff_of_false nofun (by omega)

theorem cursor (follow : Follow address want chunks) (index : Nat)
    (inside : index < chunks.length) :
    chunks[index].cursor = Memory.step address (moved (chunks.take index)) := by
  induction follow generalizing index with
  | done => cases inside
  | stall =>
      obtain rfl : index = 0 := Nat.lt_one_iff.mp inside
      exact (Memory.step_zero _).symm
  | move _ _ _ ih =>
      cases index with
      | zero => exact (Memory.step_zero _).symm
      | succ index =>
          rw [List.getElem_cons_succ, List.take_succ_cons, moved_cons, ← Memory.step_step]
          exact ih index (Nat.lt_of_succ_lt_succ inside)

theorem offer (follow : Follow address want chunks) (index : Nat) (inside : index < chunks.length) :
    chunks[index].offer = min (want - moved (chunks.take index)) Device.stagingSize := by
  induction follow generalizing index with
  | done => cases inside
  | stall _ offer =>
      obtain rfl : index = 0 := Nat.lt_one_iff.mp inside
      exact offer
  | move offer _ _ ih =>
      cases index with
      | zero => exact offer
      | succ index =>
          rw [List.getElem_cons_succ, List.take_succ_cons, moved_cons, ← Nat.sub_sub]
          exact ih index (Nat.lt_of_succ_lt_succ inside)

theorem bounded (follow : Follow address want chunks) (index : Nat) :
    moved (chunks.take index) ≤ want := by
  induction follow generalizing index with
  | done => rw [List.take_nil]; exact Nat.zero_le _
  | @stall want chunk _ _ nothing =>
      cases index with
      | zero => exact Nat.zero_le _
      | succ index =>
          rw [List.take_succ_cons, List.take_nil, moved_cons, nothing]
          exact Nat.zero_le _
  | @move want chunk _ offer _ _ ih =>
      cases index with
      | zero => exact Nat.zero_le _
      | succ index =>
          have within := chunk.taken_le
          have rest := ih index
          rw [List.take_succ_cons, moved_cons]
          omega

theorem moved_le (follow : Follow address want chunks) : Chunk.moved chunks ≤ want := by
  have all := follow.bounded chunks.length
  rwa [List.take_length] at all

/-- The chunk that moves nothing or all that is left is the last one, and the last one does. -/
theorem last_iff (follow : Follow address want chunks) (index : Nat)
    (inside : index < chunks.length) :
    chunks[index].taken = 0 ∨ Chunk.moved (chunks.take (index + 1)) = want ↔
      index + 1 = chunks.length := by
  induction follow generalizing index with
  | done => cases inside
  | stall _ _ nothing =>
      obtain rfl : index = 0 := Nat.lt_one_iff.mp inside
      exact iff_of_true (.inl nothing) rfl
  | @move want chunk rest offer something later ih =>
      have within : chunk.taken ≤ want := by
        have offered := chunk.taken_le
        omega
      cases index with
      | zero =>
          have ended := later.eq_nil_iff
          rw [List.getElem_cons_zero, List.take_succ_cons, List.take_zero, moved_cons, moved_nil,
            List.length_cons, Nat.zero_add, Nat.add_zero, eq_comm (a := 1), Nat.add_eq_right,
            List.length_eq_zero_iff, ended]
          omega
      | succ index =>
          have rest := ih index (Nat.lt_of_succ_lt_succ inside)
          rw [List.getElem_cons_succ, List.take_succ_cons, moved_cons, List.length_cons,
            Nat.add_right_cancel_iff, ← rest]
          refine or_congr Iff.rfl ?_
          omega

theorem scheduled (follow : Follow address want chunks) : Scheduled address want chunks :=
  ⟨follow.cursor, follow.offer, follow.bounded, follow.last_iff⟩

/-- Only the last chunk can move nothing. -/
theorem length_le (follow : Follow address want chunks) : chunks.length ≤ want := by
  induction follow with
  | done => exact Nat.le_refl 0
  | stall more => exact more
  | @move want chunk rest offer something _ ih =>
      have within := chunk.taken_le
      rw [List.length_cons]
      omega

/-- A backend that answers in full gets everything in as few chunks as the staging buffer allows. -/
theorem full (follow : Follow address want chunks)
    (obliging : ∀ chunk ∈ chunks, chunk.offer ≤ chunk.answer) :
    Chunk.moved chunks = want ∧
      chunks.length = (want + (Device.stagingSize - 1)) / Device.stagingSize := by
  unfold Device.stagingSize
  induction follow with
  | done => exact ⟨rfl, rfl⟩
  | @stall want chunk more offer nothing =>
      have whole := obliging chunk List.mem_cons_self
      unfold taken at nothing
      unfold Device.stagingSize at offer
      omega
  | @move want chunk rest offer _ _ ih =>
      obtain ⟨whole, others⟩ := List.forall_mem_cons.mp obliging
      obtain ⟨total, length⟩ := ih others
      have all : chunk.taken = chunk.offer := Nat.min_eq_right whole
      unfold Device.stagingSize at offer
      rw [moved_cons, total, List.length_cons, length]
      omega

end Follow

end Chunk

namespace Device

open SoundCard.Action

variable {σ : Type} [Backend σ]

/-!
## Calls
-/

/-- What the loop of a call did, chunk by chunk. -/
structure Chunked (channel : Channel) (memory : Memory) (backend : σ) (address : UInt32)
    (want : Nat) (chunks : List Chunk) (last : σ) (count : Nat) (actions : List Action) :
    Prop where
  follow : Chunk.Follow address want chunks
  answers : Chunk.Answers channel backend chunks last
  count : count = Chunk.moved chunks
  actions : actions = chunks.flatMap (Chunk.actions memory channel)

theorem exists_chunks_play (memory : Memory) (backend : σ) (address : UInt32) (want : Nat) :
    let played := playChunks memory backend address want
    ∃ chunks, Chunked .playback memory backend address want chunks played.backend played.count
        played.actions ∧
      ∀ chunk ∈ chunks, chunk.bytes = memory.read chunk.cursor chunk.offer := by
  fun_induction playChunks memory backend address want with
  | case1 => exact ⟨[], ⟨.done _, .none _ _, rfl, rfl⟩, List.forall_mem_nil _⟩
  | case2 backend address want wanted offer bytes answer next played actions taken stalled =>
      let chunk : Chunk := ⟨address, bytes, answer⟩
      have offered : chunk.offer = offer := Memory.length_read ..
      have nothing : chunk.taken = 0 := by rwa [Chunk.taken, offered]
      refine ⟨[chunk], ⟨.stall (Nat.pos_of_ne_zero wanted) offered nothing,
        .play played (.none _ _), ?_, ?_⟩, ?_⟩
      · rw [Chunk.moved_cons, nothing, Chunk.moved_nil]
      · rw [List.flatMap_singleton, Chunk.actions, offered]
      · intro other member
        obtain rfl := List.mem_singleton.mp member
        rw [offered]
  | case3 backend address want _ offer bytes answer next played actions taken moving rest ih =>
      let chunk : Chunk := ⟨address, bytes, answer⟩
      have offered : chunk.offer = offer := Memory.length_read ..
      have same : chunk.taken = taken := by rw [Chunk.taken, offered]
      obtain ⟨chunks, later, fetched⟩ := ih
      refine ⟨chunk :: chunks, ⟨.move offered ?_ ?_, .play played later.answers, ?_, ?_⟩, ?_⟩
      · rw [same]
        exact Nat.pos_of_ne_zero moving
      · rw [same]
        exact later.follow
      · rw [Chunk.moved_cons, same, ← later.count]
      · rw [List.flatMap_cons, ← later.actions, Chunk.actions, offered]
      · refine List.forall_mem_cons.mpr ⟨?_, fetched⟩
        rw [offered]

/-- The loop stores what it moved, chunk by chunk. -/
theorem exists_chunks_record (memory : Memory) (backend : σ) (staging : List UInt8)
    (address : UInt32) (want : Nat) (room : min want stagingSize ≤ staging.length) :
    let captured := captureChunks memory backend staging address want
    ∃ chunks, Chunked .capture memory backend address want chunks captured.backend captured.count
        captured.actions ∧
      captured.memory = chunks.foldl Chunk.store memory := by
  fun_induction captureChunks memory backend staging address want with
  | case1 => exact ⟨[], ⟨.done _, .none _ _, rfl, rfl⟩, rfl⟩
  | case2 memory backend staging address want wanted offer fill next recorded buffer call taken
      stalled =>
      let chunk : Chunk := ⟨address, buffer.take offer, fill.answer⟩
      have kept : buffer.length = staging.length := Fill.length_into room
      have offered : chunk.offer = offer := List.length_take_of_le (by omega)
      have nothing : chunk.taken = 0 := by rwa [Chunk.taken, offered]
      have asked : Backend.record backend chunk.offer = (fill, next) := by rwa [offered]
      have stored : fill.stored.take chunk.offer <+: chunk.bytes := by
        rw [offered]
        exact fill.stored_prefix_into offer staging
      refine ⟨[chunk], ⟨.stall (Nat.pos_of_ne_zero wanted) offered nothing,
        .record asked rfl stored (.none _ _), ?_, ?_⟩, ?_⟩
      · rw [Chunk.moved_cons, nothing, Chunk.moved_nil]
      · rw [List.flatMap_singleton, Chunk.actions, if_pos nothing, offered]
      · rw [List.foldl_cons, Chunk.store, nothing]
        rfl
  | case3 memory backend staging address want _ offer fill next recorded buffer call taken moving
      bytes actions rest ih =>
      let chunk : Chunk := ⟨address, buffer.take offer, fill.answer⟩
      have kept : buffer.length = staging.length := Fill.length_into room
      have offered : chunk.offer = offer := List.length_take_of_le (by omega)
      have same : chunk.taken = taken := by rw [Chunk.taken, offered]
      have given : chunk.bytes.take taken = bytes := by
        rw [List.take_take, Nat.min_eq_left (Nat.min_le_right ..)]
      have asked : Backend.record backend chunk.offer = (fill, next) := by rwa [offered]
      have stored : fill.stored.take chunk.offer <+: chunk.bytes := by
        rw [offered]
        exact fill.stored_prefix_into offer staging
      obtain ⟨chunks, later, memories⟩ := ih (by omega)
      refine ⟨chunk :: chunks, ⟨.move offered ?_ ?_, .record asked rfl stored later.answers, ?_, ?_⟩,
        ?_⟩
      · rw [same]
        exact Nat.pos_of_ne_zero moving
      · rw [same]
        exact later.follow
      · rw [Chunk.moved_cons, same, ← later.count]
      · have remarks : Chunk.actions (memory.write address bytes) .capture =
            Chunk.actions memory .capture := by
          funext other
          rw [Chunk.actions, Chunk.actions, Memory.notices_write]
        rw [List.flatMap_cons, ← remarks, ← later.actions, remarks, Chunk.actions, same,
          if_neg moving, given, offered]
      · rw [List.foldl_cons, Chunk.store, same, given]
        exact memories

/-- What a call does once its chunks have moved so many bytes. -/
def booking (before : Bank) (channel : Channel) (total : Nat) : List Action :=
  .notice (.transferred channel (UInt32.ofNat total)) ::
    .event (.transfer channel (UInt32.ofNat total)) ::
      if before.Completes (before.advance channel total) channel then pulse channel.line else []

theorem events_booking (before : Bank) (channel : Channel) (total : Nat) :
    events (booking before channel total) = .transfer channel (UInt32.ofNat total) ::
      if before.Completes (before.advance channel total) channel
      then [.interrupt channel.line] else [] := by
  unfold booking
  split <;> rfl

theorem playbackReady_eq (device : Device σ) (memory : Memory) {free : Nat}
    (wanted : min (device.registers.get .playbackRemaining).toNat free ≠ 0) :
    let played := playChunks memory device.backend (device.registers.get .playbackAddress)
      (min (device.registers.get .playbackRemaining).toNat free)
    device.playbackReady memory free =
      (⟨device.registers.advance .playback played.count, played.backend⟩,
        .notice (.called .playback free (device.registers.get .playbackRemaining)) ::
          played.actions ++ booking device.registers .playback played.count) := by
  intro played
  have fits : played.count ≤ (device.registers.get .playbackRemaining).toNat :=
    Nat.le_trans (playChunks_spec ..).1 (Nat.min_le_left ..)
  have settled : Device.settle ⟨device.registers, played.backend⟩ .playback played.count = _ :=
    settle_eq fits
  exact (if_neg wanted).trans
    (congrArg (fun done => (done.1, .notice _ :: played.actions ++ done.2)) settled)

theorem captureReady_eq (device : Device σ) (memory : Memory) {available : Nat}
    (wanted : min (device.registers.get .captureRemaining).toNat available ≠ 0) :
    let want := min (device.registers.get .captureRemaining).toNat available
    let captured := captureChunks memory device.backend
      (List.replicate (min want stagingSize) 0) (device.registers.get .captureAddress) want
    device.captureReady memory available =
      (⟨device.registers.advance .capture captured.count, captured.backend⟩, captured.memory,
        .notice (.called .capture available (device.registers.get .captureRemaining)) ::
          captured.actions ++ booking device.registers .capture captured.count) := by
  intro want captured
  have count : captured.count ≤ want := (captureChunks_spec _ _ _ _ _ (by simp)).1
  have fits : captured.count ≤ (device.registers.get .captureRemaining).toNat :=
    Nat.le_trans count (Nat.min_le_left ..)
  have settled : Device.settle ⟨device.registers, captured.backend⟩ .capture captured.count = _ :=
    settle_eq fits
  exact (if_neg wanted).trans
    (congrArg (fun done => (done.1, captured.memory, .notice _ :: captured.actions ++ done.2))
      settled)

end Device

namespace Board

variable {σ : Type}

/-- The memory after a call with these chunks. -/
def stored (memory : Memory) (channel : Channel) (chunks : List Chunk) : Memory :=
  match channel with
  | .playback => memory
  | .capture => chunks.foldl Chunk.store memory

variable [Backend σ]

/-- Everything that a call does which has bytes to move, told by its chunks. -/
structure Exchanged (board : Board σ) (channel : Channel) (budget : Nat) (chunks : List Chunk)
    (after : Board σ) (actions : List Action) : Prop where
  follow : Chunk.Follow (board.words.get channel.address)
    (min (board.words.get channel.remaining).toNat budget) chunks
  answers : Chunk.Answers channel board.device.backend chunks after.device.backend
  shown : channel = .playback →
    ∀ chunk ∈ chunks, chunk.bytes = board.memory.read chunk.cursor chunk.offer
  kept : after.memory = stored board.memory channel chunks
  words : after.words = board.words.advance channel (Chunk.moved chunks)
  actions : actions = .notice (.called channel budget (board.words.get channel.remaining)) ::
    chunks.flatMap (Chunk.actions board.memory channel) ++
      Device.booking board.words channel (Chunk.moved chunks)

theorem exists_exchanged (board : Board σ) {channel : Channel} {budget : Nat}
    (wanted : 0 < min (board.words.get channel.remaining).toNat budget) :
    ∃ chunks, board.Exchanged channel budget chunks (board.perform (.call channel budget)).2.1
      (board.perform (.call channel budget)).2.2 := by
  have busy := Nat.ne_of_gt wanted
  cases channel with
  | playback =>
      obtain ⟨chunks, chunked, shown⟩ := Device.exists_chunks_play board.memory board.device.backend
        (board.words.get .playbackAddress) (min (board.words.get .playbackRemaining).toNat budget)
      have called := board.device.playbackReady_eq board.memory busy
      have device : (board.perform (.call .playback budget)).2.1.device =
          (board.device.playbackReady board.memory budget).1 := board.device_perform_playback budget
      refine ⟨chunks, chunked.follow, ?_, fun _ => shown, memory_carryOut .., ?_, ?_⟩
      · rw [device, called]
        exact chunked.answers
      · rw [words, device, called, ← chunked.count]
        rfl
      · rw [← chunked.actions, ← chunked.count]
        exact congrArg Prod.snd called
  | capture =>
      obtain ⟨chunks, chunked, memories⟩ := Device.exists_chunks_record board.memory
        board.device.backend
        (List.replicate (min (min (board.words.get .captureRemaining).toNat budget)
          Device.stagingSize) 0)
        (board.words.get .captureAddress) (min (board.words.get .captureRemaining).toNat budget)
        (by simp)
      have called := board.device.captureReady_eq board.memory busy
      have device : (board.perform (.call .capture budget)).2.1.device =
          (board.device.captureReady board.memory budget).1 := board.device_perform_capture budget
      have memory : (board.perform (.call .capture budget)).2.1.memory =
          (board.device.captureReady board.memory budget).2.1 := memory_carryOut ..
      refine ⟨chunks, chunked.follow, ?_, nofun, ?_, ?_, ?_⟩
      · rw [device, called]
        exact chunked.answers
      · rw [memory, called]
        exact memories
      · rw [words, device, called, ← chunked.count]
        rfl
      · rw [← chunked.actions, ← chunked.count]
        exact congrArg (fun done => done.2.2) called

/-- What a call moved fits into the word that the event carries. -/
theorem Exchanged.counted {board after : Board σ} {channel : Channel} {budget : Nat}
    {chunks : List Chunk} {actions : List Action}
    (exchanged : board.Exchanged channel budget chunks after actions) :
    (UInt32.ofNat (Chunk.moved chunks)).toNat = Chunk.moved chunks := by
  have within := exchanged.follow.moved_le
  have small := (board.words.get channel.remaining).toNat_lt
  rw [UInt32.toNat_ofNat', Nat.mod_eq_of_lt (by omega)]

theorem Exchanged.events {board after : Board σ} {channel : Channel} {budget : Nat}
    {chunks : List Chunk} {actions : List Action}
    (exchanged : board.Exchanged channel budget chunks after actions) :
    Action.events actions = .transfer channel (UInt32.ofNat (Chunk.moved chunks)) ::
      if board.words.Completes after.words channel then [.interrupt channel.line] else [] := by
  rw [exchanged.actions, exchanged.words, Action.events_append, Action.events_cons,
    Chunk.events_actions, Device.events_booking]
  rfl

/-- The schedule of a call. It has no effect if there is nothing to move. Otherwise its chunks follow
from the answers to them alone, it moves no more than it may, it announces one transfer of what it
moved, and its words account for that. A backend that answers in full gets all of it in as few chunks
as the staging buffer allows. -/
theorem call_scheduled (board : Board σ) (channel : Channel) (budget : Nat) :
    let address := board.words.get channel.address
    let remaining := board.words.get channel.remaining
    let want := min remaining.toNat budget
    let served := board.perform (.call channel budget)
    let after := served.2.1
    (want = 0 → served = (.done, board, [.notice (.called channel budget remaining)])) ∧
      (0 < want → ∃ chunks : List Chunk,
        let total := Chunk.moved chunks
        Chunk.Scheduled address want chunks ∧ 0 < chunks.length ∧ chunks.length ≤ want ∧
        Chunk.Answers channel board.device.backend chunks after.device.backend ∧
        (channel = .playback →
          ∀ chunk ∈ chunks, chunk.bytes = board.memory.read chunk.cursor chunk.offer) ∧
        after.memory = stored board.memory channel chunks ∧
        served.2.2 = .notice (.called channel budget remaining) ::
          chunks.flatMap (Chunk.actions board.memory channel) ++
            Device.booking board.words channel total ∧
        total ≤ want ∧ (UInt32.ofNat total).toNat = total ∧
        Action.events served.2.2 = .transfer channel (UInt32.ofNat total) ::
          (if board.words.Completes after.words channel then [.interrupt channel.line] else []) ∧
        after.journal.events =
          (if board.Recording
            then (Action.events served.2.2).foldl History.push board.journal.events
            else board.journal.events) ∧
        after.words.get channel.address = Memory.step address total ∧
        (after.words.get channel.remaining).toNat = remaining.toNat - total ∧
        (∀ register, register ≠ channel.address → register ≠ channel.remaining →
          after.words.get register = board.words.get register) ∧
        ((∀ chunk ∈ chunks, chunk.offer ≤ chunk.answer) →
          total = want ∧
            chunks.length = (want + (Device.stagingSize - 1)) / Device.stagingSize)) := by
  intro address remaining want served after
  refine ⟨board.perform_call_nothing, fun wanted => ?_⟩
  obtain ⟨chunks, exchanged⟩ := board.exists_exchanged wanted
  have follow : Chunk.Follow address want chunks := exchanged.follow
  have within := follow.moved_le
  have fits : Chunk.moved chunks ≤ remaining.toNat := Nat.le_trans within (Nat.min_le_left ..)
  have words : after.words = board.words.advance channel (Chunk.moved chunks) := exchanged.words
  refine ⟨chunks, follow.scheduled, ?_, follow.length_le, exchanged.answers, exchanged.shown,
    exchanged.kept, exchanged.actions, within, exchanged.counted, exchanged.events,
    board.events_perform (.call channel budget), ?_, ?_, ?_, follow.full⟩
  · rw [List.length_pos_iff]
    exact fun unchunked => Nat.ne_of_gt wanted (follow.eq_nil_iff.mp unchunked)
  · rw [words]
    exact Bank.get_advance_address ..
  · rw [words]
    exact Bank.toNat_get_advance_remaining fits
  · intro register notAddress notRemaining
    rw [words]
    exact Bank.get_advance_of_ne _ _ notAddress notRemaining

/-- Around the end of the addresses, with an answer below its offer of 6 and then one above its offer
of 4: the call moves 6 of the 8 bytes. -/
theorem call_scheduled_scripted :
    let memory : Memory := ⟨0xFFFFFFFC, #[1, 2, 3, 4, 5, 6]⟩
    let board : Board Scripted :=
      (powerOn ⟨[2, 9, 1], 0, [], [], false, false⟩ memory (.empty true) true).1.arm .playback
        0xFFFFFFFC 8 1
    let served := board.perform (.call .playback 6)
    0 < min (board.words.get .playbackRemaining).toNat 6 ∧
      (∃ chunks, Chunk.Scheduled 0xFFFFFFFC 6 chunks ∧ Chunk.moved chunks = 6 ∧
        Chunk.Answers .playback board.device.backend chunks served.2.1.device.backend) ∧
      Action.carried .playback served.2.2 = [1, 2, 3, 4, 5, 6] ∧
      Action.events served.2.2 = [.transfer .playback 6] ∧
      served.2.1.words.get .playbackAddress = 2 := by
  intro memory board served
  have wanted : 0 < min (board.words.get .playbackRemaining).toNat 6 := by decide +kernel
  have address : board.words.get .playbackAddress = 0xFFFFFFFC := by decide +kernel
  have before : (board.words.get .playbackRemaining).toNat = 8 := by decide +kernel
  have after : (served.2.1.words.get .playbackRemaining).toNat = 2 := by decide +kernel
  obtain ⟨chunks, scheduled, _, _, answers, _, _, _, within, _, _, _, _, left, _⟩ :=
    (board.call_scheduled .playback 6).2 wanted
  refine ⟨wanted, ⟨chunks, ?_, ?_, answers⟩, by decide +kernel, by decide +kernel, by decide +kernel⟩
  · rw [← address]
    simpa [Channel.address, Channel.remaining, before] using scheduled
  · have total : 2 = 8 - Chunk.moved chunks := by rw [← before, ← after]; exact left
    omega

end Board

end SoundCard
