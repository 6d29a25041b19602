import Mathlib.Algebra.GroupWithZero.Nat
import SoundCard.Proofs.Exchange
import SoundCard.Proofs.Transfer

/-!
# How a budget is cut into calls

As long as the backend answers in full, it does not matter into how many calls a budget is cut:
after any list of calls the channel moved as many bytes as the budgets add up to, or all that
remained, and the call that reached the end announced it. What a capture voice gives could still
depend on how it is asked, so the bytes of capture are the same only if the voice gives one sound.
-/

set_option autoImplicit false

namespace SoundCard

namespace Action

/-- The backend answered in full: it took all that was offered, or gave all that was asked for. -/
def Obliging : Action → Prop
  | .played offered answer => offered.length ≤ answer
  | .recorded room _ answer => room ≤ answer
  | _ => True

instance : DecidablePred Obliging
  | .played offered answer => inferInstanceAs (Decidable (offered.length ≤ answer))
  | .recorded room _ answer => inferInstanceAs (Decidable (room ≤ answer))
  | .opened .. | .switched .. | .drove .. | .fetched .. | .stored .. | .event .. | .error ..
  | .notice .. => isTrue trivial

end Action

namespace Backend

variable {σ : Type} [Backend σ]

/-- What the capture voice gives if it is asked for these amounts one after the other. -/
def supply (backend : σ) : List Nat → List UInt8
  | [] => []
  | room :: rest =>
    let (fill, backend) := record backend room
    fill.stored.take (min fill.answer room) ++ supply backend rest

/-- However it is asked, the capture voice gives this sound, in full as long as the sound lasts. -/
def Streams (backend : σ) (sound : List UInt8) : Prop :=
  ∀ rooms : List Nat, rooms.sum ≤ sound.length → supply backend rooms = sound.take rooms.sum

theorem Streams.record {backend next : σ} {sound : List UInt8} (streams : Streams backend sound)
    {room : Nat} (lasting : room ≤ sound.length) {fill : Fill}
    (recorded : Backend.record backend room = (fill, next)) :
    room ≤ fill.answer ∧ fill.stored.take room = sound.take room ∧
      Streams next (sound.drop room) := by
  have asked : ∀ rest, supply backend (room :: rest) =
      fill.stored.take (min fill.answer room) ++ supply next rest := by
    intro rest
    rw [supply, recorded]
  have alone := streams [room] (by simpa using lasting)
  rw [asked, supply, List.append_nil, List.sum_singleton] at alone
  have full : room ≤ fill.answer := by
    have lengths := congrArg List.length alone
    rw [List.length_take, List.length_take] at lengths
    omega
  rw [Nat.min_eq_right full] at alone
  refine ⟨full, alone, fun rest later => ?_⟩
  rw [List.length_drop] at later
  have both := streams (room :: rest) (by rw [List.sum_cons]; omega)
  rw [asked, Nat.min_eq_right full, alone, List.sum_cons, List.take_add] at both
  exact List.append_cancel_left both

end Backend

namespace Queues

theorem record_of_le {queues : Queues} (active : queues.captureActive = true) {room : Nat}
    (enough : room ≤ queues.capture.toList.length) :
    (queues.record room).1 = ⟨queues.capture.toList.take room, room⟩ ∧
      (queues.record room).2.capture.toList = queues.capture.toList.drop room := by
  have asked : min room queues.available = room := by
    rw [available, if_pos active, Fifo.size_eq_length]
    exact Nat.min_eq_left enough
  unfold record
  rw [asked]
  simp [Fifo.take_fst, Fifo.toList_take_snd, Nat.min_eq_left enough]

/-- An active capture voice gives what waits in its queue. -/
theorem streams {queues : Queues} (active : queues.captureActive = true) :
    Backend.Streams queues queues.capture.toList := by
  intro rooms
  induction rooms generalizing queues with
  | nil =>
      intro _
      rw [List.sum_nil, List.take_zero]
      rfl
  | cons room rest ih =>
      intro lasting
      rw [List.sum_cons] at lasting
      have enough : room ≤ queues.capture.toList.length := by omega
      obtain ⟨given, left⟩ := record_of_le active enough
      have others : Backend.supply (queues.record room).2 rest = _ :=
        @ih (queues.record room).2 active (by rw [left, List.length_drop]; omega)
      have asked : Backend.supply queues (room :: rest) = (queues.record room).1.stored.take
          (min (queues.record room).1.answer room) ++
            Backend.supply (queues.record room).2 rest := rfl
      rw [asked, others, given, left, List.take_take, Nat.min_self, Nat.min_self, List.sum_cons,
        List.take_add]

end Queues

/-- A fill that stores all that was asked for leaves it at the front of the buffer. -/
theorem Fill.take_into_of_full {fill : Fill} {room : Nat} (buffer : List UInt8)
    (full : room ≤ fill.stored.length) :
    (fill.into room buffer).take room = fill.stored.take room := by
  have length : (fill.stored.take room).length = room := List.length_take_of_le full
  exact List.take_left' length

namespace Device

open SoundCard.Action

variable {σ : Type} [Backend σ]

/-!
## Calls
-/

theorem count_playChunks_of_obliging (memory : Memory) (backend : σ) (address : UInt32)
    (want : Nat) :
    (∀ action ∈ (playChunks memory backend address want).actions, action.Obliging) →
      (playChunks memory backend address want).count = want := by
  fun_induction playChunks memory backend address want with
  | case1 => exact fun _ => rfl
  | case2 backend address want wanted offer chunk answer next _ actions taken stalled =>
      intro obliging
      have whole : chunk.length ≤ answer := obliging (.played chunk answer) (by simp [actions])
      have stopped : min answer offer = 0 := stalled
      have offered : chunk.length = offer := Memory.length_read ..
      have staged : 0 < offer := Nat.lt_min.mpr ⟨Nat.pos_of_ne_zero wanted, by decide⟩
      omega
  | case3 backend address want _ offer chunk answer next _ actions taken _ rest ih =>
      intro obliging
      have whole : chunk.length ≤ answer := obliging (.played chunk answer) (by simp [actions])
      have took : taken = min answer offer := rfl
      have offered : chunk.length = offer := Memory.length_read ..
      have within : offer ≤ want := Nat.min_le_left ..
      have others : rest.count = want - taken :=
        ih fun action member => obliging action (List.mem_append_right _ member)
      dsimp only
      omega

theorem count_captureChunks_of_obliging (memory : Memory) (backend : σ) (staging : List UInt8)
    (address : UInt32) (want : Nat) :
    (∀ action ∈ (captureChunks memory backend staging address want).actions, action.Obliging) →
      (captureChunks memory backend staging address want).count = want := by
  fun_induction captureChunks memory backend staging address want with
  | case1 => exact fun _ => rfl
  | case2 memory backend staging address want wanted room fill next _ buffer call taken stalled =>
      intro obliging
      have whole : room ≤ fill.answer := obliging call List.mem_cons_self
      have stopped : min fill.answer room = 0 := stalled
      have staged : 0 < room := Nat.lt_min.mpr ⟨Nat.pos_of_ne_zero wanted, by decide⟩
      omega
  | case3 memory backend staging address want _ room fill next _ buffer call taken _ bytes actions
      rest ih =>
      intro obliging
      have whole : room ≤ fill.answer := obliging call List.mem_cons_self
      have took : taken = min fill.answer room := rfl
      have within : room ≤ want := Nat.min_le_left ..
      have others : rest.count = want - taken :=
        ih fun action member => obliging action (List.mem_append_right _ member)
      dsimp only
      omega

/-- From a voice that gives one sound, a call gets the next piece of it. -/
theorem captureChunks_of_streams (memory : Memory) (backend : σ) (staging : List UInt8)
    (address : UInt32) (want : Nat) :
    ∀ sound, Backend.Streams backend sound → want ≤ sound.length →
      carried .capture (captureChunks memory backend staging address want).actions =
          sound.take want ∧
        Backend.Streams (captureChunks memory backend staging address want).backend
          (sound.drop want) := by
  fun_induction captureChunks memory backend staging address want with
  | case1 => exact fun sound streams _ => ⟨rfl, streams⟩
  | case2 memory backend staging address want wanted room fill next recorded buffer call taken
      stalled =>
      intro sound streams lasting
      have within : room ≤ want := Nat.min_le_left ..
      obtain ⟨full, _⟩ := streams.record (Nat.le_trans within lasting) recorded
      have stopped : min fill.answer room = 0 := stalled
      have staged : 0 < room := Nat.lt_min.mpr ⟨Nat.pos_of_ne_zero wanted, by decide⟩
      omega
  | case3 memory backend staging address want _ room fill next recorded buffer call taken _ bytes
      actions rest ih =>
      intro sound streams lasting
      have within : room ≤ want := Nat.min_le_left ..
      obtain ⟨full, stored, others⟩ := streams.record (Nat.le_trans within lasting) recorded
      have whole : taken = room := Nat.min_eq_right full
      have split : room + (want - taken) = want := by omega
      obtain ⟨later, left⟩ := ih _ others (by rw [List.length_drop]; omega)
      have lengths := congrArg List.length stored
      rw [List.length_take, List.length_take] at lengths
      have given : carried .capture actions = sound.take room := by
        rw [← stored, ← Fill.take_into_of_full staging (by omega)]
        simp [actions, call, moved, acquired, List.take_take, Nat.min_eq_right full, buffer]
      rw [List.drop_drop, split] at left
      refine ⟨?_, left⟩
      dsimp only
      rw [carried_append, given]
      refine (congrArg (_ ++ ·) later).trans ?_
      rw [← List.take_add, split]

theorem length_carried_playbackReady_of_obliging (device : Device σ) (memory : Memory) (free : Nat)
    (obliging : ∀ action ∈ (device.playbackReady memory free).2, action.Obliging) :
    (carried .playback (device.playbackReady memory free).2).length =
      min (device.registers.get .playbackRemaining).toNat free := by
  rw [length_carried_playbackReady]
  refine count_playChunks_of_obliging _ _ _ _ fun action member => obliging action ?_
  unfold playbackReady
  dsimp only
  split
  · next unwanted =>
    rw [unwanted, playChunks, if_pos rfl] at member
    cases member
  · exact List.mem_append_left _ (List.mem_cons_of_mem _ member)

theorem length_carried_captureReady_of_obliging (device : Device σ) (memory : Memory)
    (available : Nat)
    (obliging : ∀ action ∈ (device.captureReady memory available).2.2, action.Obliging) :
    (carried .capture (device.captureReady memory available).2.2).length =
      min (device.registers.get .captureRemaining).toNat available := by
  rw [length_carried_captureReady]
  refine count_captureChunks_of_obliging _ _ _ _ _ fun action member => obliging action ?_
  unfold captureReady
  dsimp only
  split
  · next unwanted =>
    rw [unwanted, captureChunks, if_pos rfl] at member
    cases member
  · exact List.mem_append_left _ (List.mem_cons_of_mem _ member)

theorem captureReady_of_streams (device : Device σ) (memory : Memory) (available : Nat)
    {sound : List UInt8} (streams : Backend.Streams device.backend sound)
    (lasting : min (device.registers.get .captureRemaining).toNat available ≤ sound.length) :
    let want := min (device.registers.get .captureRemaining).toNat available
    carried .capture (device.captureReady memory available).2.2 = sound.take want ∧
      Backend.Streams (device.captureReady memory available).1.backend (sound.drop want) := by
  unfold captureReady
  dsimp only
  split
  · next unwanted =>
    rw [unwanted]
    exact ⟨rfl, streams⟩
  · obtain ⟨given, left⟩ := captureChunks_of_streams memory device.backend
      (List.replicate (min (min (device.registers.get .captureRemaining).toNat available)
        stagingSize) 0)
      (device.registers.get .captureAddress)
      (min (device.registers.get .captureRemaining).toNat available) sound streams lasting
    refine ⟨?_, left⟩
    dsimp only
    rw [carried_append, carried_settle, List.append_nil, carried_cons]
    exact given

end Device

namespace Turn

variable {σ : Type}

/-- A call of a channel with a budget. -/
def call (channel : Channel) (budget : Nat) : Turn σ :=
  .operate (.call channel budget)

theorem called?_call (channel : Channel) (budget : Nat) :
    (call channel budget : Turn σ).called? = some channel :=
  Operation.called?_call ..

theorem spares_of_mem_calls {channel : Channel} {budgets : List Nat} {turn : Turn σ}
    (member : turn ∈ budgets.map (call channel)) (other : Channel) : turn.Spares other := by
  obtain ⟨budget, _, rfl⟩ := List.mem_map.mp member
  exact spares_of_called (called?_call channel budget) other

end Turn

namespace Board

variable {σ : Type}

/-!
## Words and edges
-/

/-- From one board to the next a total budget was spent on a channel. -/
structure Spent (channel : Channel) (total : Nat) (before after : Board σ) : Prop where
  words : after.words = before.words.advance channel
    (min (before.words.get channel.remaining).toNat total)
  lines : after.lines = before.lines.note
    (if 0 < (before.words.get channel.remaining).toNat ∧
        (before.words.get channel.remaining).toNat ≤ total
      then [channel.line] else [])

namespace Spent

variable {channel : Channel} {first second : Nat} {before middle after : Board σ}

theorem remaining (spent : Spent channel first before after) :
    (after.words.get channel.remaining).toNat =
      (before.words.get channel.remaining).toNat -
        min (before.words.get channel.remaining).toNat first := by
  rw [spent.words]
  exact Bank.toNat_get_advance_remaining (Nat.min_le_left ..)

theorem refl (board : Board σ) : Spent channel 0 board board := by
  refine ⟨?_, ?_⟩
  · rw [Nat.min_zero, Bank.advance_zero]
  · rw [if_neg (by omega), Recorder.note_nil]

theorem trans (here : Spent channel first before middle)
    (there : Spent channel second middle after) : Spent channel (first + second) before after := by
  have left := here.remaining
  refine ⟨?_, ?_⟩
  · rw [there.words, left, here.words, Bank.advance_advance]
    congr 1
    omega
  · rw [there.lines, left, here.lines, ← Recorder.note_append]
    congr 1
    split <;> split <;> split <;> first | rfl | omega

end Spent

variable [Backend σ]

/-- Calls of a channel with these budgets, one after the other. -/
def calls (board : Board σ) (channel : Channel) (budgets : List Nat) : Board σ × List Action :=
  board.session (budgets.map (Turn.call channel))

theorem calls_cons (board : Board σ) (channel : Channel) (budget : Nat) (rest : List Nat) :
    board.calls channel (budget :: rest) =
      (((board.turn (.call channel budget)).1.calls channel rest).1,
        (board.turn (.call channel budget)).2 ++
          ((board.turn (.call channel budget)).1.calls channel rest).2) := rfl

theorem calls_append (board : Board σ) (channel : Channel) (first second : List Nat) :
    board.calls channel (first ++ second) =
      (((board.calls channel first).1.calls channel second).1,
        (board.calls channel first).2 ++
          ((board.calls channel first).1.calls channel second).2) := by
  unfold calls
  rw [List.map_append, session_append]

/-- A call that is answered in full spends its budget. -/
theorem spent_call {board : Board σ} (low : board.lines.AllLow) {channel : Channel}
    (enabled : board.words.enabled channel = true) {budget : Nat}
    (obliging : ∀ action ∈ (board.turn (.call channel budget)).2, action.Obliging) :
    Spent channel budget board (board.turn (.call channel budget)).1 := by
  have moved : (Action.carried channel (board.turn (.call channel budget)).2).length =
      min (board.words.get channel.remaining).toNat budget := by
    cases channel with
    | playback =>
        exact board.device.length_carried_playbackReady_of_obliging board.memory budget obliging
    | capture =>
        exact board.device.length_carried_captureReady_of_obliging board.memory budget obliging
  have words : (board.turn (.call channel budget)).1.words = board.words.advance channel
      (min (board.words.get channel.remaining).toNat budget) := by
    rw [← moved]
    exact board.words_call channel budget
  refine ⟨words, ?_⟩
  refine (lines_call low channel budget).trans ?_
  refine congrArg board.lines.note (ite_congr (propext ?_) (fun _ => rfl) fun _ => rfl)
  refine (iff_of_eq (congrArg (Bank.Completes board.words · channel) words)).trans ?_
  rw [Bank.completes_advance_iff (Nat.min_le_left ..)]
  constructor
  · rintro ⟨_, positive, all⟩
    exact ⟨positive, by omega⟩
  · rintro ⟨positive, all⟩
    exact ⟨enabled, positive, by omega⟩

/-- Calls that are answered in full spend what their budgets add up to. -/
theorem spent_calls {board : Board σ} (low : board.lines.AllLow) {channel : Channel}
    (enabled : board.words.enabled channel = true) {budgets : List Nat}
    (obliging : ∀ action ∈ (board.calls channel budgets).2, action.Obliging) :
    Spent channel budgets.sum board (board.calls channel budgets).1 := by
  induction budgets generalizing board with
  | nil => exact .refl board
  | cons budget rest ih =>
      obtain ⟨obligingFirst, obligingRest⟩ := List.forall_mem_append.mp obliging
      have first := spent_call low enabled obligingFirst
      have still : (board.turn (.call channel budget)).1.words.enabled channel = true := by
        rw [first.words, Bank.enabled_advance]
        exact enabled
      have others := ih (lines_turn low (.call channel budget)).1 still obligingRest
      rw [List.sum_cons]
      exact first.trans others

/-!
## Bytes
-/

theorem length_carried_calls {board : Board σ} (low : board.lines.AllLow) {channel : Channel}
    (enabled : board.words.enabled channel = true) {budgets : List Nat}
    (obliging : ∀ action ∈ (board.calls channel budgets).2, action.Obliging) :
    (Action.carried channel (board.calls channel budgets).2).length =
      min (board.words.get channel.remaining).toNat budgets.sum := by
  have left := (spent_calls low enabled obliging).remaining
  have spared : ∀ turn ∈ budgets.map (Turn.call (σ := σ) channel), turn.Spares channel :=
    fun turn member => Turn.spares_of_mem_calls member channel
  have accounted := board.remaining_session spared
  unfold calls at left ⊢
  omega

theorem carried_calls_of_ne (board : Board σ) {channel other : Channel} (apart : other ≠ channel)
    (budgets : List Nat) : Action.carried other (board.calls channel budgets).2 = [] := by
  induction budgets generalizing board with
  | nil => rfl
  | cons budget rest ih =>
      have uncalled : (Turn.call channel budget : Turn σ).called? ≠ some other :=
        Operation.called?_call_ne apart.symm budget
      rw [calls_cons, Action.carried_append, board.carried_turn uncalled]
      exact ih (board.turn (.call channel budget)).1

theorem memory_calls (board : Board σ) (channel : Channel) (budgets : List Nat) :
    (board.calls channel budgets).1.memory =
      board.memory.write (board.words.get .captureAddress)
        (Action.carried .capture (board.calls channel budgets).2) := by
  refine board.memory_session (fun turn member => Turn.spares_of_mem_calls member _) ?_
  rintro turn member address bytes rfl
  obtain ⟨budget, _, same⟩ := List.mem_map.mp member
  cases same

theorem memory_calls_playback (board : Board σ) (budgets : List Nat) :
    (board.calls .playback budgets).1.memory = board.memory := by
  have others : Channel.capture ≠ .playback := nofun
  rw [memory_calls, carried_calls_of_ne board others]
  rfl

theorem carried_calls_playback (board : Board σ) (budgets : List Nat) :
    Action.carried .playback (board.calls .playback budgets).2 =
      board.memory.read (board.words.get .playbackAddress)
        (Action.carried .playback (board.calls .playback budgets).2).length := by
  refine board.carried_session_playback (fun turn member => Turn.spares_of_mem_calls member _) ?_
  intro past future split distance _
  obtain ⟨first, second, _, rfl, _⟩ := List.map_eq_append_iff.mp split
  exact congrArg (Memory.byteAt · _) (board.memory_calls_playback first)

theorem carried_call_of_streams (board : Board σ) (budget : Nat) {sound : List UInt8}
    (streams : Backend.Streams board.device.backend sound)
    (lasting : min (board.words.get .captureRemaining).toNat budget ≤ sound.length) :
    let want := min (board.words.get .captureRemaining).toNat budget
    Action.carried .capture (board.turn (.call .capture budget)).2 = sound.take want ∧
      Backend.Streams (board.turn (.call .capture budget)).1.device.backend (sound.drop want) := by
  have device : (board.turn (.call .capture budget)).1.device =
      (board.device.captureReady board.memory budget).1 := board.device_perform_capture budget
  rw [device]
  exact board.device.captureReady_of_streams board.memory budget streams lasting

/-- Calls of a voice that gives one sound get the beginning of it. -/
theorem carried_calls_of_streams {board : Board σ} (low : board.lines.AllLow)
    (enabled : board.words.enabled .capture = true) {budgets : List Nat} {sound : List UInt8}
    (obliging : ∀ action ∈ (board.calls .capture budgets).2, action.Obliging)
    (streams : Backend.Streams board.device.backend sound)
    (lasting : min (board.words.get .captureRemaining).toNat budgets.sum ≤ sound.length) :
    Action.carried .capture (board.calls .capture budgets).2 =
      sound.take (min (board.words.get .captureRemaining).toNat budgets.sum) := by
  induction budgets generalizing board sound with
  | nil =>
      rw [List.sum_nil, Nat.min_zero, List.take_zero]
      rfl
  | cons budget rest ih =>
      obtain ⟨obligingFirst, obligingRest⟩ := List.forall_mem_append.mp obliging
      have first := spent_call low enabled obligingFirst
      have left : ((board.turn (.call .capture budget)).1.words.get .captureRemaining).toNat =
          (board.words.get .captureRemaining).toNat -
            min (board.words.get .captureRemaining).toNat budget := first.remaining
      have still : (board.turn (.call .capture budget)).1.words.enabled .capture = true := by
        rw [first.words, Bank.enabled_advance]
        exact enabled
      rw [List.sum_cons] at lasting ⊢
      obtain ⟨given, next⟩ := board.carried_call_of_streams budget streams (by omega)
      have others := ih (lines_turn low (.call .capture budget)).1 still obligingRest next
      rw [left, List.length_drop] at others
      have finished := others (by omega)
      rw [calls_cons, Action.carried_append, given, finished, ← List.take_add]
      refine congrArg (sound.take ·) ?_
      omega

/-- Equal totals carry the same bytes, for capture if the voice gives one sound. -/
theorem carried_calls_of_sum_eq {board : Board σ} (low : board.lines.AllLow) {channel : Channel}
    (enabled : board.words.enabled channel = true) {first second : List Nat}
    (same : first.sum = second.sum)
    (obliging : ∀ action ∈ (board.calls channel first).2, action.Obliging)
    (obliging' : ∀ action ∈ (board.calls channel second).2, action.Obliging)
    (steady : channel = .capture → ∃ sound, Backend.Streams board.device.backend sound ∧
      min (board.words.get channel.remaining).toNat first.sum ≤ sound.length) :
    Action.carried channel (board.calls channel first).2 =
      Action.carried channel (board.calls channel second).2 := by
  cases channel with
  | playback =>
      have length := length_carried_calls low enabled obliging
      have length' := length_carried_calls low enabled obliging'
      rw [carried_calls_playback board first, carried_calls_playback board second, length, length',
        same]
  | capture =>
      obtain ⟨sound, streams, lasting⟩ := steady rfl
      rw [carried_calls_of_streams low enabled obliging streams lasting,
        carried_calls_of_streams low enabled obliging' streams (same ▸ lasting), same]

/-!
## Totals
-/

section

variable {board : Board σ} (low : board.lines.AllLow) {channel : Channel}
  (enabled : board.words.enabled channel = true)
  (unfinished : board.words.get channel.remaining ≠ 0)

include low enabled unfinished

/-- The end is announced as soon as the budgets add up to what remained. -/
theorem count_calls {budgets : List Nat}
    (obliging : ∀ action ∈ (board.calls channel budgets).2, action.Obliging) :
    (board.calls channel budgets).1.lines.count channel.line = board.lines.count channel.line +
      if (board.words.get channel.remaining).toNat ≤ budgets.sum then 1 else 0 := by
  have positive := toNat_pos_of_ne_zero unfinished
  rw [(spent_calls low enabled obliging).lines, Recorder.count_note]
  by_cases all : (board.words.get channel.remaining).toNat ≤ budgets.sum
  · simp [positive, all]
  · simp [all]

theorem raises_call_iff {past : List Nat} {budget : Nat}
    (obliging : ∀ action ∈ (board.calls channel (past ++ [budget])).2, action.Obliging) :
    (board.calls channel past).1.Raises (.call channel budget) channel.line ↔
      past.sum < (board.words.get channel.remaining).toNat ∧
        (board.words.get channel.remaining).toNat ≤ past.sum + budget := by
  have raised := count_calls low enabled unfinished obliging
  rw [calls_append] at obliging
  have before := count_calls low enabled unfinished (List.forall_mem_append.mp obliging).1
  rw [calls_append, List.sum_append, List.sum_singleton] at raised
  unfold Raises
  refine (iff_of_eq (congrArg (· = _) raised)).trans ?_
  rw [before]
  split <;> split <;> omega

end

/-- On low lines, an enabled channel of which bytes remain moves what its budgets add up to, as long
as the backend answers in full, and only the call that reaches the end announces it. So two lists of
budgets with the same total leave the same words, the same memory and the same lines, and move the
same bytes; for capture, if the voice gives one sound. -/
theorem calls_additive (board : Board σ) (low : board.lines.AllLow) (channel : Channel)
    (enabled : board.words.enabled channel = true)
    (unfinished : board.words.get channel.remaining ≠ 0) :
    let count := (board.words.get channel.remaining).toNat
    (∀ budgets, (∀ action ∈ (board.calls channel budgets).2, action.Obliging) →
      let after := (board.calls channel budgets).1
      (after.words.get channel.remaining).toNat = count - min count budgets.sum ∧
        after.words.get channel.address =
          Memory.step (board.words.get channel.address) (min count budgets.sum) ∧
        after.lines.count channel.line =
          board.lines.count channel.line + (if count ≤ budgets.sum then 1 else 0) ∧
        ∀ past budget future, budgets = past ++ budget :: future →
          ((board.calls channel past).1.Raises (.call channel budget) channel.line ↔
            past.sum < count ∧ count ≤ past.sum + budget)) ∧
      ∀ first second : List Nat, first.sum = second.sum →
        (∀ action ∈ (board.calls channel first).2, action.Obliging) →
        (∀ action ∈ (board.calls channel second).2, action.Obliging) →
        (channel = .capture → ∃ sound, Backend.Streams board.device.backend sound ∧
          min count first.sum ≤ sound.length) →
        let here := board.calls channel first
        let there := board.calls channel second
        here.1.words = there.1.words ∧ here.1.memory = there.1.memory ∧
          Action.carried channel here.2 = Action.carried channel there.2 ∧
          here.1.lines = there.1.lines := by
  intro count
  constructor
  · intro budgets obliging after
    have spent := spent_calls low enabled obliging
    refine ⟨spent.remaining, ?_, count_calls low enabled unfinished obliging, ?_⟩
    · rw [spent.words]
      exact Bank.get_advance_address ..
    · rintro past budget future rfl
      rw [← List.singleton_append, ← List.append_assoc, calls_append] at obliging
      exact raises_call_iff low enabled unfinished (List.forall_mem_append.mp obliging).1
  · intro first second same obliging obliging' steady here there
    have spent := spent_calls low enabled obliging
    have spent' := spent_calls low enabled obliging'
    have carried : Action.carried channel here.2 = Action.carried channel there.2 :=
      carried_calls_of_sum_eq low enabled same obliging obliging' steady
    refine ⟨?_, ?_, carried, ?_⟩
    · rw [spent.words, spent'.words, same]
    · cases channel with
      | playback => rw [memory_calls_playback, memory_calls_playback]
      | capture => rw [memory_calls, memory_calls, carried]
    · rw [spent.lines, spent'.lines, same]

/-- Four bytes to capture of five that wait, in two calls or in three. -/
theorem calls_additive_cut :
    let board := ((powerOn (Queues.closed 0) (.zeros 0 8) (.empty false) false).1.session
      [.operate (.write 9 1), .operate (.write 10 4), .operate (.write 8 1),
        .host (·.feed [1, 2, 3, 4, 5])]).1
    let whole := board.calls .capture [3, 2]
    let parts := board.calls .capture [1, 0, 4]
    board.lines.AllLow ∧ board.words.enabled .capture = true ∧
      board.words.get .captureRemaining = 4 ∧
      (∀ action ∈ whole.2, action.Obliging) ∧ (∀ action ∈ parts.2, action.Obliging) ∧
      Backend.Streams board.device.backend [1, 2, 3, 4, 5] ∧
      whole.1.lines.count .captureDone = 1 ∧
      (board.calls .capture [3]).1.Raises (.call .capture 2) .captureDone ∧
      whole.1.words = parts.1.words ∧ whole.1.memory = parts.1.memory := by
  intro board whole parts
  have low : board.lines.AllLow := allLow_session (allLow_powerOn _ _ _ _) _
  have enabled : board.words.enabled .capture = true := by decide +kernel
  have remaining : board.words.get .captureRemaining = 4 := by decide +kernel
  have obliging : ∀ action ∈ whole.2, action.Obliging := by decide +kernel
  have obliging' : ∀ action ∈ parts.2, action.Obliging := by decide +kernel
  have active : board.voices.captureActive = true := by decide +kernel
  have waiting : board.voices.capture.toList = [1, 2, 3, 4, 5] := by decide +kernel
  have streams : Backend.Streams board.device.backend [1, 2, 3, 4, 5] := by
    rw [← waiting]
    exact Queues.streams active
  have unfinished : board.words.get .captureRemaining ≠ 0 := by
    rw [remaining]
    decide
  obtain ⟨counted, split⟩ := calls_additive board low .capture enabled unfinished
  obtain ⟨words, memory, _, _⟩ := split [3, 2] [1, 0, 4] rfl obliging obliging' fun _ =>
    ⟨_, streams, by rw [Channel.remaining, remaining]; decide⟩
  refine ⟨low, enabled, remaining, obliging, obliging', streams, ?_, ?_, words, memory⟩
  · refine (counted [3, 2] obliging).2.2.1.trans ?_
    rw [Channel.remaining, remaining]
    decide +kernel
  · refine ((counted [3, 2] obliging).2.2.2 [3] 2 [] rfl).mpr ?_
    rw [Channel.remaining, remaining]
    decide

end Board

end SoundCard
