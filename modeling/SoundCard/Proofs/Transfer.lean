import SoundCard.Proofs.Completion
import SoundCard.Voice.Scripted

/-!
# Transfers

A transfer is armed by three writes: the cursor, the count and the control word. However it is then
cut into calls, chunks and answers, and whatever else happens to the card in between, the bytes that
went over the channel are exactly those that its words account for, and its end is announced once.
-/

set_option autoImplicit false

namespace SoundCard

namespace Turn

variable {σ : Type}

def arming (channel : Channel) (address count control : UInt32) : List (Turn σ) :=
  [.operate (.write channel.address.index address),
    .operate (.write channel.remaining.index count),
    .operate (.write channel.control.index control)]

end Turn

namespace Board

variable {σ : Type} [Backend σ]

def arm (board : Board σ) (channel : Channel) (address count control : UInt32) : Board σ :=
  (board.session (Turn.arming channel address count control)).1

/-- During one of the calls in the session the enabled channel ran out of bytes. -/
def Exhausts (board : Board σ) (turns : List (Turn σ)) (channel : Channel) : Prop :=
  ∃ past turn future, turns = past ++ turn :: future ∧
    turn.called? = some channel ∧
    (board.session past).1.words.Completes (board.session (past ++ [turn])).1.words channel

/-- How far a transfer of `count` bytes from or to `address` got in a session. -/
structure Booked (board : Board σ) (turns : List (Turn σ)) (channel : Channel)
    (address count : UInt32) : Prop where
  bounded : (board.session turns).1.words.get channel.remaining ≤ count
  falling : ∀ past future, turns = past ++ future →
    (board.session turns).1.words.get channel.remaining ≤
      (board.session past).1.words.get channel.remaining
  cursor : (board.session turns).1.words.get channel.address =
    address + (count - (board.session turns).1.words.get channel.remaining)
  moved : (Action.carried channel (board.session turns).2).length =
    (count - (board.session turns).1.words.get channel.remaining).toNat
  edges :
    (((board.session turns).1.words.get channel.remaining = 0 ∧ board.Exhausts turns channel) ∧
        (board.session turns).1.lines.count channel.line = board.lines.count channel.line + 1) ∨
      (¬((board.session turns).1.words.get channel.remaining = 0 ∧ board.Exhausts turns channel) ∧
        (board.session turns).1.lines.count channel.line = board.lines.count channel.line)

theorem exhausts_cons {board : Board σ} {turn : Turn σ} {rest : List (Turn σ)} {channel : Channel} :
    board.Exhausts (turn :: rest) channel ↔
      (turn.called? = some channel ∧
          board.words.Completes (board.turn turn).1.words channel) ∨
        (board.turn turn).1.Exhausts rest channel := by
  constructor
  · rintro ⟨past, caller, future, split, called, complete⟩
    cases past with
    | nil =>
        obtain ⟨rfl, rfl⟩ := List.cons.inj split
        exact .inl ⟨called, complete⟩
    | cons first past =>
        obtain ⟨rfl, later⟩ := List.cons.inj split
        exact .inr ⟨past, caller, future, later, called, complete⟩
  · rintro (⟨called, complete⟩ | ⟨past, caller, future, rfl, called, complete⟩)
    · exact ⟨[], turn, rest, rfl, called, complete⟩
    · exact ⟨turn :: past, caller, future, rfl, called, complete⟩

/-- A drained channel stays drained, so that nothing can exhaust it any more. -/
theorem not_exhausts {board : Board σ} {turns : List (Turn σ)} {channel : Channel}
    (spared : ∀ turn ∈ turns, turn.Spares channel)
    (drained : board.words.get channel.remaining = 0) : ¬board.Exhausts turns channel := by
  rintro ⟨past, turn, future, rfl, _, _, unfinished, _⟩
  obtain ⟨sparedPast, _⟩ := List.forall_mem_append.mp spared
  have accounted := board.remaining_session sparedPast
  rw [drained, UInt32.toNat_zero] at accounted
  refine unfinished (UInt32.toNat_inj.mp ?_)
  rw [UInt32.toNat_zero]
  omega

theorem drained_of_exhausts {board : Board σ} {turns : List (Turn σ)} {channel : Channel}
    (spared : ∀ turn ∈ turns, turn.Spares channel) (exhausted : board.Exhausts turns channel) :
    (board.session turns).1.words.get channel.remaining = 0 := by
  obtain ⟨past, turn, future, rfl, _, _, _, finished⟩ := exhausted
  obtain ⟨_, sparedLater⟩ := List.forall_mem_append.mp spared
  obtain ⟨_, sparedFuture⟩ := List.forall_mem_cons.mp sparedLater
  have accounted := (board.session (past ++ [turn])).1.remaining_session sparedFuture
  rw [finished, UInt32.toNat_zero] at accounted
  rw [← List.singleton_append, ← List.append_assoc, session_append]
  refine UInt32.toNat_inj.mp ?_
  rw [UInt32.toNat_zero]
  dsimp only
  omega

/-- The end of a transfer is announced once, by the call that reaches it. -/
theorem count_session {board : Board σ} (low : board.lines.AllLow) {turns : List (Turn σ)}
    {channel : Channel} (spared : ∀ turn ∈ turns, turn.Spares channel) :
    (board.Exhausts turns channel ∧
        (board.session turns).1.lines.count channel.line = board.lines.count channel.line + 1) ∨
      (¬board.Exhausts turns channel ∧
        (board.session turns).1.lines.count channel.line = board.lines.count channel.line) := by
  induction turns generalizing board with
  | nil =>
      refine .inr ⟨?_, rfl⟩
      rintro ⟨past, turn, future, split, _⟩
      cases past <;> cases split
  | cons turn rest ih =>
      obtain ⟨_, sparedRest⟩ := List.forall_mem_cons.mp spared
      have others := ih (lines_turn low turn).1 sparedRest
      rw [exhausts_cons, session_cons]
      rcases count_turn low turn channel.line with ⟨announced, raised⟩ | ⟨silent, same⟩
      · have complete := Turn.announces_line.mp announced
        -- The channel is drained now, so that the rest of the session cannot complete it again.
        have ended := not_exhausts sparedRest complete.2.2.2
        rcases others with ⟨again, _⟩ | ⟨_, later⟩
        · exact absurd again ended
        · exact .inl ⟨.inl complete, later.trans raised⟩
      · have incomplete := mt Turn.announces_line.mpr silent
        rcases others with ⟨later, counted⟩ | ⟨never, counted⟩
        · exact .inl ⟨.inr later, by rw [counted, same]⟩
        · refine .inr ⟨?_, counted.trans same⟩
          rintro (now | later)
          · exact incomplete now
          · exact never later

theorem booked_session {board : Board σ} (low : board.lines.AllLow) {turns : List (Turn σ)}
    {channel : Channel} (spared : ∀ turn ∈ turns, turn.Spares channel) :
    board.Booked turns channel (board.words.get channel.address)
      (board.words.get channel.remaining) := by
  have accounted := board.remaining_session spared
  have bounded : (board.session turns).1.words.get channel.remaining ≤
      board.words.get channel.remaining := by
    rw [UInt32.le_iff_toNat_le]
    omega
  have moved : (Action.carried channel (board.session turns).2).length =
      (board.words.get channel.remaining -
        (board.session turns).1.words.get channel.remaining).toNat := by
    rw [UInt32.toNat_sub_of_le _ _ bounded]
    omega
  refine ⟨bounded, ?_, ?_, moved, ?_⟩
  · rintro past future rfl
    obtain ⟨_, sparedFuture⟩ := List.forall_mem_append.mp spared
    have later := (board.session past).1.remaining_session sparedFuture
    rw [session_append, UInt32.le_iff_toNat_le]
    dsimp only
    omega
  · rw [board.address_session spared, moved, Memory.step, UInt32.ofNat_toNat]
  · rcases count_session low spared with ⟨exhausted, counted⟩ | ⟨unexhausted, counted⟩
    · exact .inl ⟨⟨drained_of_exhausts spared exhausted, exhausted⟩, counted⟩
    · exact .inr ⟨fun both => unexhausted both.2, counted⟩

theorem words_arm (start : Board σ) (channel : Channel) (address count control : UInt32) :
    (start.arm channel address count control).words =
      ((start.words.write channel.address.index address).write channel.remaining.index count).write
        channel.control.index control := by
  unfold arm Turn.arming
  rw [session_cons, session_cons, session_cons]
  exact (words_of_written _ rfl).trans (congrArg (Bank.write · _ _)
    ((words_of_written _ rfl).trans (congrArg (Bank.write · _ _) (words_of_written _ rfl))))

theorem arm_spec {start : Board σ} (low : start.lines.AllLow) (channel : Channel)
    (address count control : UInt32) :
    (start.arm channel address count control).lines.AllLow ∧
      (start.arm channel address count control).words.get channel.address = address ∧
      (start.arm channel address count control).words.get channel.remaining = count := by
  have words := start.words_arm channel address count control
  have controlElsewhere : ∀ register, channel.control ≠ register →
      channel.control.index.val ≠ register.index.val :=
    fun register different same => different (Register.index_injective (Fin.ext same))
  have remainingElsewhere : channel.remaining.index.val ≠ channel.address.index.val :=
    fun same => channel.address_ne_remaining channel (Register.index_injective (Fin.ext same.symm))
  refine ⟨allLow_session low _, ?_, ?_⟩
  · rw [words, Bank.get_write_of_ne _ _ (controlElsewhere _ (channel.control_ne_address channel)),
      Bank.get_write_of_ne _ _ remainingElsewhere, Bank.get_write_address]
  · rw [words, Bank.get_write_of_ne _ _ (controlElsewhere _ (channel.control_ne_remaining channel)),
      Bank.get_write_remaining]

theorem booked_armed {start : Board σ} (low : start.lines.AllLow) {turns : List (Turn σ)}
    {channel : Channel} {address count control : UInt32}
    (spared : ∀ turn ∈ turns, turn.Spares channel) :
    (start.arm channel address count control).Booked turns channel address count := by
  obtain ⟨quiet, cursor, remaining⟩ := arm_spec low channel address count control
  have booked := booked_session quiet spared
  rwa [cursor, remaining] at booked

/-!
## Playback
-/

/-- The bytes that the backend takes are those of memory, as long as these stay what they were. -/
theorem carried_session_playback (board : Board σ) {turns : List (Turn σ)}
    (spared : ∀ turn ∈ turns, turn.Spares .playback)
    (kept : ∀ past future, turns = past ++ future →
      ∀ distance < (board.words.get .playbackRemaining).toNat,
        (board.session past).1.memory.byteAt
            (Memory.step (board.words.get .playbackAddress) distance) =
          board.memory.byteAt (Memory.step (board.words.get .playbackAddress) distance)) :
    Action.carried .playback (board.session turns).2 =
      board.memory.read (board.words.get .playbackAddress)
        (Action.carried .playback (board.session turns).2).length := by
  induction turns generalizing board with
  | nil => rfl
  | cons turn rest ih =>
      obtain ⟨sparedFirst, sparedRest⟩ := List.forall_mem_cons.mp spared
      have cursor := board.address_turn sparedFirst.1
      have left := board.remaining_turn sparedFirst.2
      have accounted := (board.turn turn).1.remaining_session sparedRest
      have taken := board.carried_turn_playback turn
      simp only [Channel.address, Channel.remaining] at cursor left accounted
      -- The cells ahead of the new cursor are among those ahead of the old one.
      have here : ∀ distance < ((board.turn turn).1.words.get .playbackRemaining).toNat,
          (board.turn turn).1.memory.byteAt
              (Memory.step ((board.turn turn).1.words.get .playbackAddress) distance) =
            board.memory.byteAt
              (Memory.step ((board.turn turn).1.words.get .playbackAddress) distance) := by
        intro distance small
        rw [cursor, Memory.step_step]
        exact kept [turn] rest rfl _ (by omega)
      have others := ih (board.turn turn).1 sparedRest <| by
        rintro past future rfl distance small
        refine Eq.trans ?_ (here distance small).symm
        rw [cursor, Memory.step_step]
        exact kept (turn :: past) future rfl _ (by omega)
      rw [session_cons, Action.carried_append, List.length_append, Memory.read_add, ← taken]
      refine congrArg (_ ++ ·) (others.trans ?_)
      rw [cursor] at here ⊢
      exact Memory.read_congr fun distance small => here distance (by omega)

/-- A playback transfer hands over the bytes of memory from its address on, each of them once, as
many as its words account for. The bytes are read off the actions of the session, and
`exists_exchanged` ties those of each call to what the backend was offered and answered, chunk by
chunk. -/
theorem playback_conserved (start : Board σ) (low : start.lines.AllLow)
    (address count control : UInt32) (turns : List (Turn σ))
    (spared : ∀ turn ∈ turns, turn.Spares .playback)
    (kept : ∀ past future, turns = past ++ future → ∀ distance < count.toNat,
      ((start.arm .playback address count control).session past).1.memory.byteAt
          (Memory.step address distance) =
        (start.arm .playback address count control).memory.byteAt (Memory.step address distance)) :
    let armed := start.arm .playback address count control
    let now := armed.session turns
    armed.Booked turns .playback address count ∧
      Action.carried .playback now.2 =
        armed.memory.read address (count - now.1.words.get .playbackRemaining).toNat := by
  obtain ⟨_, cursor, remaining⟩ := arm_spec low .playback address count control
  have booked : (start.arm .playback address count control).Booked turns .playback address count :=
    booked_armed low spared
  refine ⟨booked, ?_⟩
  have carried := (start.arm .playback address count control).carried_session_playback spared
  simp only [Channel.address, Channel.remaining] at cursor remaining
  rw [cursor, remaining] at carried
  refine (carried kept).trans ?_
  rw [booked.moved]
  rfl

/-- Three bytes across the top of the address space, to a backend that takes two of them, then
nothing, and then claims more than it was offered. -/
theorem playback_conserved_scripted :
    let memory : Memory := ⟨0xFFFFFFFE, #[1, 2, 3, 4]⟩
    let start : Board Scripted :=
      (powerOn ⟨[2, 0, 9], 0, [], [], false, false⟩ memory (.empty false) false).1
    let armed := start.arm .playback 0xFFFFFFFE 3 1
    let turns : List (Turn Scripted) := [.operate (.playback 5), .operate (.playback 5)]
    start.lines.AllLow ∧ (∀ turn ∈ turns, turn.Spares .playback) ∧
      (∀ past future, turns = past ++ future → ∀ distance < 3,
        (armed.session past).1.memory.byteAt (Memory.step 0xFFFFFFFE distance) =
          armed.memory.byteAt (Memory.step 0xFFFFFFFE distance)) ∧
      armed.Booked turns .playback 0xFFFFFFFE 3 ∧
      Action.carried .playback (armed.session turns).2 = [1, 2, 3] := by
  intro memory start armed turns
  have low : start.lines.AllLow := allLow_powerOn _ _ _ _
  have spared : ∀ turn ∈ turns, turn.Spares .playback := by
    intro turn member
    have same : turn = .operate (.playback 5) := by simpa [turns] using member
    subst same
    exact Turn.spares_of_called rfl .playback
  have kept : ∀ past future, turns = past ++ future → ∀ distance < 3,
      (armed.session past).1.memory.byteAt (Memory.step 0xFFFFFFFE distance) =
        armed.memory.byteAt (Memory.step 0xFFFFFFFE distance) := by
    intro past future split
    have begins : past <+: turns := ⟨future, split.symm⟩
    have table : ∀ length < 3, ∀ distance < 3,
        (armed.session (turns.take length)).1.memory.byteAt (Memory.step 0xFFFFFFFE distance) =
          armed.memory.byteAt (Memory.step 0xFFFFFFFE distance) := by decide +kernel
    rw [List.prefix_iff_eq_take.mp begins]
    exact table past.length (Nat.lt_succ_of_le begins.length_le)
  obtain ⟨booked, carried⟩ := playback_conserved start low 0xFFFFFFFE 3 1 turns spared kept
  exact ⟨low, spared, kept, booked, carried.trans (by decide +kernel)⟩

/-!
## Capture
-/

theorem memory_session (board : Board σ) {turns : List (Turn σ)}
    (spared : ∀ turn ∈ turns, turn.Spares .capture)
    (unstored : ∀ turn ∈ turns, ∀ address bytes, turn ≠ .store address bytes) :
    (board.session turns).1.memory =
      board.memory.write (board.words.get .captureAddress)
        (Action.carried .capture (board.session turns).2) := by
  induction turns generalizing board with
  | nil => rfl
  | cons turn rest ih =>
      obtain ⟨sparedFirst, sparedRest⟩ := List.forall_mem_cons.mp spared
      obtain ⟨unstoredFirst, unstoredRest⟩ := List.forall_mem_cons.mp unstored
      have cursor := board.address_turn sparedFirst.1
      have first : (board.turn turn).1.memory =
          board.memory.write (board.words.get .captureAddress)
            (Action.carried .capture (board.turn turn).2) := by
        cases turn with
        | operate operation => exact board.memory_perform operation
        | store address bytes => exact absurd rfl (unstoredFirst address bytes)
        | _ => rfl
      have others := ih (board.turn turn).1 sparedRest unstoredRest
      simp only [Channel.address] at cursor
      rw [session_cons, Action.carried_append, Memory.write_append, ← first, ← cursor]
      exact others

/-- A capture transfer stores the bytes that the backend gave from its address on, as many as its
words account for, and leaves the rest of memory alone. What it gave is read off the actions of the
session, and `exists_exchanged` ties those of each call to the buffers that the backend filled and to
its answers, chunk by chunk. -/
theorem capture_conserved (start : Board σ) (low : start.lines.AllLow)
    (address count control : UInt32) (turns : List (Turn σ))
    (spared : ∀ turn ∈ turns, turn.Spares .capture)
    (unstored : ∀ turn ∈ turns, ∀ address bytes, turn ≠ .store address bytes) :
    let armed := start.arm .capture address count control
    let now := armed.session turns
    let given := Action.carried .capture now.2
    armed.Booked turns .capture address count ∧
      (∀ other, now.1.memory.maps other = armed.memory.maps other) ∧
      (∀ distance, (inside : distance < given.length) →
        armed.memory.maps (Memory.step address distance) = true →
        now.1.memory.byteAt (Memory.step address distance) = given[distance]) ∧
      ∀ other, (∀ distance < given.length, other ≠ Memory.step address distance) →
        now.1.memory.byteAt other = armed.memory.byteAt other := by
  obtain ⟨_, cursor, _⟩ := arm_spec low .capture address count control
  have booked : (start.arm .capture address count control).Booked turns .capture address count :=
    booked_armed low spared
  have memory := (start.arm .capture address count control).memory_session spared unstored
  simp only [Channel.address] at cursor
  rw [cursor] at memory
  have fits : (Action.carried .capture
      ((start.arm .capture address count control).session turns).2).length ≤ 2 ^ 32 := by
    rw [booked.moved]
    exact Nat.le_of_lt (UInt32.toNat_lt _)
  refine ⟨booked, ?_, ?_, ?_⟩
  · intro other
    rw [memory, Memory.maps_write]
  · intro distance inside backed
    rw [memory, Memory.byteAt_write_step fits inside backed]
  · intro other apart
    rw [memory, Memory.byteAt_write_apart apart]

/-- Four bytes of which the window backs two, from a backend that claims more than it was asked for
in the end. -/
theorem capture_conserved_scripted :
    let memory : Memory := ⟨0xFFFFFFFE, #[7, 7, 7]⟩
    let start : Board Scripted :=
      (powerOn ⟨[2, 9], 0, [1, 2, 3, 4], [], false, false⟩ memory (.empty false) false).1
    let armed := start.arm .capture 0xFFFFFFFF 4 1
    let turns : List (Turn Scripted) := [.operate (.capture 2), .operate (.capture 5)]
    start.lines.AllLow ∧ (∀ turn ∈ turns, turn.Spares .capture) ∧
      (∀ turn ∈ turns, ∀ address bytes, turn ≠ .store address bytes) ∧
      armed.Booked turns .capture 0xFFFFFFFF 4 ∧
      (armed.session turns).1.memory.byteAt 0 = 2 ∧
      (armed.session turns).1.memory.byteAt 0xFFFFFFFE = 7 := by
  intro memory start armed turns
  have low : start.lines.AllLow := allLow_powerOn _ _ _ _
  have called : ∀ turn ∈ turns, turn.called? = some .capture := by
    intro turn member
    obtain rfl | rfl : turn = .operate (.capture 2) ∨ turn = .operate (.capture 5) := by
      simpa [turns] using member
    all_goals rfl
  have spared : ∀ turn ∈ turns, turn.Spares .capture :=
    fun turn member => Turn.spares_of_called (called turn member) .capture
  have unstored : ∀ turn ∈ turns, ∀ address bytes, turn ≠ .store address bytes := by
    rintro turn member address bytes rfl
    cases called _ member
  obtain ⟨booked, _, stored, others⟩ :=
    capture_conserved start low 0xFFFFFFFF 4 1 turns spared unstored
  refine ⟨low, spared, unstored, booked, ?_, ?_⟩
  · exact (stored 1 (by decide +kernel) (by decide +kernel)).trans (by decide +kernel)
  · exact (others 0xFFFFFFFE (by decide +kernel)).trans (by decide +kernel)

end Board

end SoundCard
