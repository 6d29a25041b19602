import SoundCard.Proofs.Conservation
import SoundCard.Proofs.Waiting

/-!
# Disabled channels

The card moves bytes whenever it is called, whether the channel is enabled or not. But the voice of a
channel that is not enabled is inactive, an inactive voice takes and gives nothing, and a tick does not
call the channel at all. So nothing happens to the transfer of a disabled channel: neither to its words
and its line, nor to its queue but by the host. Clearing the enable bit and writing the old control word
again later is therefore a pause, after which the transfer goes on from where it stopped.
-/

set_option autoImplicit false

namespace SoundCard

/-- The step lets a transfer go on, and leaves guest memory to the card. -/
def Step.Spares : Step → Channel → Prop
  | .operate operation, channel => (Turn.operate operation : Turn Queues).Spares channel
  | .host _, _ | .tick, _ => True
  | .store _ _, _ => False

namespace Board

open SoundCard.Action

/-!
## What a silent voice moves
-/

theorem active_call (board : Board Queues) (called channel : Channel) (budget : Nat) :
    (board.perform (.call called budget)).2.1.voices.active channel =
      board.voices.active channel := by
  cases called with
  | playback =>
      obtain ⟨playback, same⟩ := board.exists_playback_perform budget
      rw [Operation.call, same]
      cases channel <;> rfl
  | capture =>
      obtain ⟨capture, same⟩ := board.exists_capture_perform budget
      rw [Operation.call, same]
      cases channel <;> rfl

/-- No operation moves a byte over a channel whose voice is inactive. -/
theorem carried_perform_inactive {board : Board Queues} {channel : Channel}
    (silent : board.voices.active channel = false) (operation : Operation) :
    carried channel (board.perform operation).2.2 = [] := by
  by_cases called : operation.called? = some channel
  · obtain ⟨budget, rfl⟩ : ∃ budget, operation = .call channel budget := by
      cases operation <;> cases called <;> exact ⟨_, rfl⟩
    rw [← List.length_eq_zero_iff, length_carried_call, Queues.ready_eq_zero silent, Nat.min_zero]
  · exact board.carried_perform called

theorem carried_duty {board : Board Queues} {channel : Channel}
    (silent : board.voices.active channel = false) (called : Channel) :
    carried channel (board.session (board.duty called)).2 = [] ∧
      (board.session (board.duty called)).1.voices.active channel = false := by
  rw [duty_eq]
  split
  · rw [session_cons, carried_append]
    refine ⟨?_, (board.active_call called channel _).trans silent⟩
    exact List.append_eq_nil_iff.mpr ⟨carried_perform_inactive silent _, rfl⟩
  · exact ⟨rfl, silent⟩

theorem carried_step {board : Board Queues} {channel : Channel}
    (silent : board.voices.active channel = false) (step : Step) :
    carried channel (board.session (board.turns step)).2 = [] := by
  cases step with
  | operate operation =>
      rw [turns, session_cons, carried_append]
      exact List.append_eq_nil_iff.mpr ⟨carried_perform_inactive silent operation, rfl⟩
  | host | store => rfl
  | tick =>
      obtain ⟨played, still⟩ := carried_duty silent .playback
      obtain ⟨filled, _⟩ := carried_duty still .capture
      rw [turns, servePlayback_eq_session, session_append, session_append, carried_append,
        carried_append, played, filled]
      rfl

/-!
## What nothing moves does not change
-/

theorem spares_turns {board : Board Queues} {step : Step} {channel : Channel}
    (spared : step.Spares channel) {turn : Turn Queues} (member : turn ∈ board.turns step) :
    turn.Spares channel ∧ ∀ address bytes, turn ≠ .store address bytes := by
  have owed : ∀ {board : Board Queues} {called : Channel}, turn ∈ board.duty called →
      turn.Spares channel ∧ ∀ address bytes, turn ≠ .store address bytes := by
    intro board called member
    rw [duty_eq] at member
    split at member
    · obtain rfl := List.mem_singleton.mp member
      have served : (Turn.operate (.call called (board.voices.ready called)) :
          Turn Queues).called? = some called := Operation.called?_call ..
      exact ⟨Turn.spares_of_called served channel, nofun⟩
    · cases member
  have free : turn.operation? = none → turn.Spares channel := by
    intro idle
    have kept : ∀ register, ¬turn.Rewrites register := by
      simp [Turn.Rewrites, Turn.restored?, Turn.written?, idle]
    exact ⟨kept _, kept _⟩
  cases step with
  | operate operation =>
      obtain rfl := List.mem_singleton.mp member
      exact ⟨spared, nofun⟩
  | host action =>
      obtain rfl := List.mem_singleton.mp member
      exact ⟨free rfl, nofun⟩
  | store => exact spared.elim
  | tick =>
      rcases List.mem_append.mp member with called | taken
      · rcases List.mem_append.mp called with played | filled
        · exact owed played
        · exact owed filled
      · obtain rfl := List.mem_singleton.mp taken
        exact ⟨free rfl, nofun⟩

/-- A call that moves nothing ends no transfer. -/
theorem not_exhausts_of_carried {σ : Type} [Backend σ] {board : Board σ} {turns : List (Turn σ)}
    {channel : Channel} (nothing : carried channel (board.session turns).2 = []) :
    ¬board.Exhausts turns channel := by
  rintro ⟨past, turn, future, rfl, called, _, unfinished, finished⟩
  rw [session_append, session_cons, carried_append, carried_append] at nothing
  obtain ⟨_, later⟩ := List.append_eq_nil_iff.mp nothing
  obtain ⟨here, _⟩ := List.append_eq_nil_iff.mp later
  have moved := (board.session past).1.remaining_turn (Turn.spares_of_called called channel).2
  rw [session_append] at finished
  have drained : ((board.session past).1.turn turn).1.words.get channel.remaining = 0 := finished
  rw [here, drained] at moved
  exact unfinished (UInt32.toNat_inj.mp moved.symm)

/-- Nothing happened to the transfer of the channel, and to its queue only what the host did. -/
structure Frozen (channel : Channel) (before : Board Queues) (reports : List Report)
    (after : Board Queues) : Prop where
  address : after.words.get channel.address = before.words.get channel.address
  remaining : after.words.get channel.remaining = before.words.get channel.remaining
  edges : after.lines.count channel.line = before.lines.count channel.line
  idle : ∀ service ∈ Service.on channel (reports.flatMap Report.services),
    carried channel service.actions = []
  drained : channel = .playback →
    reports.flatMap Report.drained ++ after.voices.playback.toList = before.voices.playback.toList
  fed : channel = .capture →
    after.voices.capture.toList = before.voices.capture.toList ++ reports.flatMap Report.fed
  memory : channel = .capture → after.memory = before.memory

namespace Frozen

theorem refl (channel : Channel) (board : Board Queues) : Frozen channel board [] board :=
  ⟨rfl, rfl, rfl, List.forall_mem_nil _, fun _ => List.nil_append _,
    fun _ => (List.append_nil _).symm, fun _ => rfl⟩

theorem trans {channel : Channel} {before between after : Board Queues}
    {first second : List Report} (earlier : Frozen channel before first between)
    (later : Frozen channel between second after) :
    Frozen channel before (first ++ second) after := by
  refine ⟨later.address.trans earlier.address, later.remaining.trans earlier.remaining,
    later.edges.trans earlier.edges, ?_, fun playback => ?_, fun capture => ?_,
    fun capture => (later.memory capture).trans (earlier.memory capture)⟩
  · unfold Service.on
    rw [List.flatMap_append, List.filter_append]
    exact List.forall_mem_append.mpr ⟨earlier.idle, later.idle⟩
  · rw [List.flatMap_append, List.append_assoc, later.drained playback, earlier.drained playback]
  · rw [List.flatMap_append, ← List.append_assoc, ← earlier.fed capture, later.fed capture]

end Frozen

/-- A step that moves nothing over a channel leaves its transfer as it was. -/
theorem frozen_step {board : Board Queues} (low : board.lines.AllLow) {step : Step}
    {channel : Channel} (spared : step.Spares channel)
    (nothing : carried channel (board.session (board.turns step)).2 = []) :
    Frozen channel board [(board.step step).2] (board.step step).1 := by
  have turns : ∀ turn ∈ board.turns step, turn.Spares channel :=
    fun turn member => (spares_turns spared member).1
  have cursor := board.address_session turns
  have left := board.remaining_session turns
  have conserved := board.step_conserves step
  have after := board.step_eq_session step
  rw [nothing] at cursor left
  have reports : [(board.step step).2].flatMap Report.services = board.services (board.turns step) := by
    rw [List.flatMap_singleton, services_step]
  rw [← after] at cursor left
  refine ⟨cursor.trans (Memory.step_zero _), UInt32.toNat_inj.mp left, ?_, ?_, ?_, ?_, ?_⟩
  · rw [after]
    rcases count_session low turns with ⟨exhausted, _⟩ | ⟨_, same⟩
    · exact absurd exhausted (not_exhausts_of_carried nothing)
    · exact same
  · rw [carried_session] at nothing
    rw [reports]
    exact List.flatMap_eq_nil_iff.mp nothing
  · rintro rfl
    have fetched := conserved.1
    rw [services_step, ← carried_session_fetched, nothing, List.append_nil] at fetched
    rw [List.flatMap_singleton]
    exact fetched
  · rintro rfl
    have stored := conserved.2
    rw [services_step, ← carried_session_stored, nothing, List.nil_append] at stored
    rw [List.flatMap_singleton]
    exact stored.symm
  · rintro rfl
    rw [after, memory_session board turns fun turn member => (spares_turns spared member).2, nothing]
    rfl

/-!
## Pauses
-/

/-- The channel is disabled before each of the steps and after the last one. -/
def Disabled (board : Board Queues) (steps : List Step) (channel : Channel) : Prop :=
  ∀ past future, steps = past ++ future → (board.steps past).1.words.enabled channel = false

/-- On the steps: before each of them the voice is inactive, as the channel is disabled. -/
theorem frozen_steps {board : Board Queues} (synchronized : board.device.Synchronized)
    (low : board.lines.AllLow) {steps : List Step} {channel : Channel}
    (spared : ∀ step ∈ steps, step.Spares channel) (disabled : board.Disabled steps channel) :
    Frozen channel board (board.steps steps).2 (board.steps steps).1 := by
  induction steps generalizing board with
  | nil => exact .refl channel board
  | cons step rest ih =>
      obtain ⟨sparedFirst, sparedRest⟩ := List.forall_mem_cons.mp spared
      have silent : board.voices.active channel = false :=
        (synchronized channel).trans (disabled [] (step :: rest) rfl)
      have first := frozen_step low sparedFirst (carried_step silent step)
      have later : (board.step step).1.Disabled rest channel := by
        rintro past future rfl
        exact disabled (step :: past) future rfl
      have still : (board.step step).1.lines.AllLow := allLow_steps low [step]
      exact first.trans (ih (synchronized_step synchronized step) still sparedRest later)

/-- Writing the control word does nothing to a transfer by itself. -/
theorem frozen_control {board : Board Queues} (low : board.lines.AllLow) {operation : Operation}
    {channel : Channel} {value : UInt32}
    (written : operation.written? = some (channel.control.index.val, value)) :
    Frozen channel board [(board.step (.operate operation)).2]
        (board.step (.operate operation)).1 ∧
      (board.step (.operate operation)).1.words.get channel.control = value := by
  have kept : ∀ register, channel.control ≠ register →
      ¬(Turn.operate operation : Turn Queues).Rewrites register := by
    intro register apart rewrites
    rcases rewrites with reset | ⟨words, restored⟩ | ⟨other, elsewhere⟩
    · cases reset
      cases written
    · cases operation with
      | load snapshot => cases written
      | _ => cases restored
    · have same := Option.some.inj (written.symm.trans elsewhere)
      exact apart (Register.index_injective (Fin.ext (congrArg Prod.fst same)))
  have uncalled : operation.called? ≠ some channel := by
    cases operation with
    | playback | capture => cases written
    | _ => exact nofun
  have spared : (Step.operate operation).Spares channel :=
    ⟨kept _ (channel.control_ne_address channel), kept _ (channel.control_ne_remaining channel)⟩
  refine ⟨frozen_step low spared ?_, ?_⟩
  · rw [turns, session_cons, carried_append]
    exact List.append_eq_nil_iff.mpr ⟨board.carried_perform uncalled, rfl⟩
  · have words : (board.turn (.operate operation)).1.words = _ := words_of_written board written
    exact (congrArg (Bank.get · channel.control) words).trans (Bank.get_write_control ..)

/-- The channel is set as it was before, and its transfer goes on where it was: the account of what
remained is kept from there on, and the next call moves the next bytes. -/
structure Continues (channel : Channel) (before : Board Queues) (reports : List Report)
    (resumed : Board Queues) : Prop where
  control : resumed.words.get channel.control = before.words.get channel.control
  active : resumed.voices.active channel = before.voices.active channel
  booked : ∀ turns : List (Turn Queues), (∀ turn ∈ turns, turn.Spares channel) →
    resumed.Booked turns channel (before.words.get channel.address)
      (before.words.get channel.remaining)
  played : channel = .playback → ∀ free,
    let bytes := carried .playback (resumed.perform (.playback free)).2.2
    bytes = resumed.memory.read (before.words.get .playbackAddress) bytes.length
  captured : channel = .capture → ∀ available,
    let called := resumed.perform (.capture available)
    let bytes := carried .capture called.2.2
    bytes ++ called.2.1.voices.capture.toList =
        before.voices.capture.toList ++ reports.flatMap Report.fed ∧
      called.2.1.memory = before.memory.write (before.words.get .captureAddress) bytes

theorem Frozen.continues {channel : Channel} {before resumed : Board Queues} {reports : List Report}
    (frozen : Frozen channel before reports resumed)
    (synchronized : before.device.Synchronized ∧ resumed.device.Synchronized)
    (low : resumed.lines.AllLow)
    (control : resumed.words.get channel.control = before.words.get channel.control) :
    Continues channel before reports resumed := by
  refine ⟨control, ?_, fun turns sparing => ?_, ?_, ?_⟩
  · have enabled : resumed.words.enabled channel = before.words.enabled channel :=
      congrArg (fun word => (ChannelControl.mk word).enable) control
    exact (synchronized.2 channel).trans (enabled.trans (synchronized.1 channel).symm)
  · have booked := booked_session low sparing
    rwa [frozen.address, frozen.remaining] at booked
  · rintro rfl free
    have bytes := resumed.carried_perform_playback (.playback free)
    have cursor : resumed.words.get .playbackAddress = before.words.get .playbackAddress :=
      frozen.address
    rwa [← cursor]
  · rintro rfl available
    have cursor : resumed.words.get .captureAddress = before.words.get .captureAddress :=
      frozen.address
    refine ⟨(resumed.capture_perform (.capture available)).trans (frozen.fed rfl), ?_⟩
    rw [← cursor, ← frozen.memory rfl]
    exact resumed.memory_perform (.capture available)

/-- From power on, whatever happened to a machine: as long as a channel is disabled and nobody writes
its cursor and its count, nothing happens to its transfer. If the channel was disabled by its control
word, then writing the old one lets the transfer continue with the very bytes that remained of it. -/
theorem transfer_frozen (capacity : Nat) (memory : Memory) (journal : Journal Event)
    (watched : Bool) (past : List Phase) (channel : Channel) :
    let board := ((powerOn (Queues.closed capacity) memory journal watched).1.phases past).1
    (∀ steps, (∀ step ∈ steps, step.Spares channel) → board.Disabled steps channel →
      Frozen channel board (board.steps steps).2 (board.steps steps).1) ∧
    ∀ (stop resume : Operation) (paused : UInt32) (steps : List Step),
      stop.written? = some (channel.control.index.val, paused) →
      resume.written? = some (channel.control.index.val, board.words.get channel.control) →
      (∀ step ∈ steps, step.Spares channel) →
      (board.step (.operate stop)).1.Disabled steps channel →
      let pause := .operate stop :: steps ++ [.operate resume]
      Frozen channel board (board.steps pause).2 (board.steps pause).1 ∧
        Continues channel board (board.steps pause).2 (board.steps pause).1 := by
  intro board
  obtain ⟨before, same⟩ :=
    (powerOn (Queues.closed capacity) memory journal watched).1.exists_steps past
  have synchronized : board.device.Synchronized := by
    have reached :=
      synchronized_steps (synchronized_powerOn capacity memory journal watched) before
    rwa [← same] at reached
  have low : board.lines.AllLow := by
    have reached :=
      allLow_steps (allLow_powerOn (Queues.closed capacity) memory journal watched) before
    rwa [← same] at reached
  refine ⟨fun steps => frozen_steps synchronized low, ?_⟩
  intro stop resume paused steps stopping resuming spared disabled pause
  let stopped := (board.step (.operate stop)).1
  let held := (stopped.steps steps).1
  have stoppedLow : stopped.lines.AllLow := allLow_steps low [.operate stop]
  have heldLow : held.lines.AllLow := allLow_steps stoppedLow steps
  have stoppedFrozen := (frozen_control low stopping).1
  have heldFrozen : Frozen channel stopped (stopped.steps steps).2 held :=
    frozen_steps (synchronized_step synchronized (.operate stop)) stoppedLow spared disabled
  obtain ⟨resumedFrozen, control⟩ := frozen_control heldLow resuming
  have whole : board.steps pause = ((held.step (.operate resume)).1,
      [(board.step (.operate stop)).2] ++
        ((stopped.steps steps).2 ++ [(held.step (.operate resume)).2])) := by
    rw [steps_append, steps_cons, steps_cons]
    rfl
  have frozen : Frozen channel board (board.steps pause).2 (board.steps pause).1 := by
    rw [whole]
    exact stoppedFrozen.trans (heldFrozen.trans resumedFrozen)
  refine ⟨frozen, frozen.continues ⟨synchronized, synchronized_steps synchronized pause⟩
    (allLow_steps low pause) ?_⟩
  rw [whole]
  exact control

/-- Two of four bytes were played when the playback channel is disabled. Neither a tick nor a call plays
another one, while the host drains the first, and then the transfer goes on with the third. The capture
channel is disabled all the time. -/
theorem transfer_frozen_playback :
    let past : List Phase := [.step (.operate (.write 6 4)), .step (.operate (.write 4 1)),
      .step .tick]
    let steps : List Step := [.tick, .operate (.playback 5), .host (.drain 1), .operate .save]
    let board := ((powerOn (.closed 2) ⟨0, #[1, 2, 3, 4]⟩ (.empty false) false).1.phases past).1
    let stopped := (board.step (.operate (.write 4 0))).1
    let pause := .operate (.write 4 0) :: steps ++ [.operate (.busWrite 16 1)]
    let resumed := (board.steps pause).1
    (∀ channel, ∀ step ∈ steps, step.Spares channel) ∧
      board.Disabled steps .capture ∧ stopped.Disabled steps .playback ∧
      Frozen .capture board (board.steps steps).2 (board.steps steps).1 ∧
      board.words.get .playbackControl = 1 ∧
      (board.steps pause).2.flatMap Report.drained = [1] ∧
      resumed.voices.playback.toList = [2] ∧ resumed.voices.active .playback = true ∧
      resumed.Booked [.operate (.playback 9)] .playback 2 2 := by
  intro past steps board stopped pause resumed
  have spared : ∀ channel, ∀ step ∈ steps, step.Spares channel := by
    intro channel
    have saved : (Step.operate .save).Spares channel := by
      constructor <;> (rintro (reset | ⟨_, restored⟩ | ⟨_, written⟩) <;> contradiction)
    have called : (Step.operate (.playback 5)).Spares channel :=
      Turn.spares_of_called rfl channel
    simp only [steps, List.forall_mem_cons]
    exact ⟨trivial, called, trivial, saved, List.forall_mem_nil _⟩
  have prefixes : ∀ (board : Board Queues) (channel : Channel),
      (∀ length < 5, (board.steps (steps.take length)).1.words.enabled channel = false) →
        board.Disabled steps channel := by
    intro board channel table earlier later split
    have begins : earlier <+: steps := ⟨later, split.symm⟩
    rw [List.prefix_iff_eq_take.mp begins]
    exact table earlier.length (Nat.lt_succ_of_le begins.length_le)
  have silent : board.Disabled steps .capture := prefixes board .capture (by decide +kernel)
  have disabled : stopped.Disabled steps .playback := prefixes stopped .playback (by decide +kernel)
  have control : board.words.get .playbackControl = 1 := by decide +kernel
  have resuming : (Operation.busWrite 16 1).written? =
      some (Channel.playback.control.index.val, board.words.get Channel.playback.control) := by
    decide +kernel
  have still := (transfer_frozen 2 ⟨0, #[1, 2, 3, 4]⟩ (.empty false) false past .capture).1 steps
    (spared .capture) silent
  obtain ⟨frozen, continues⟩ :=
    (transfer_frozen 2 ⟨0, #[1, 2, 3, 4]⟩ (.empty false) false past .playback).2 (.write 4 0)
      (.busWrite 16 1) 0 steps rfl resuming (spared .playback) disabled
  have drained : (board.steps pause).2.flatMap Report.drained = [1] := by decide +kernel
  have queued : board.voices.playback.toList = [1, 2] := by decide +kernel
  have enabled : board.voices.active .playback = true := by decide +kernel
  have address : board.words.get Channel.playback.address = 2 := by decide +kernel
  have remaining : board.words.get Channel.playback.remaining = 2 := by decide +kernel
  have conserved := frozen.drained rfl
  have left : resumed.voices.playback.toList = [2] := by
    rw [drained, queued] at conserved
    exact List.append_cancel_left conserved
  have continued : resumed.Booked [.operate (.playback 9)] .playback 2 2 := by
    have called : ∀ turn ∈ [(.operate (.playback 9) : Turn Queues)], turn.Spares .playback := by
      intro turn member
      obtain rfl := List.mem_singleton.mp member
      exact Turn.spares_of_called rfl .playback
    have same := continues.booked _ called
    rwa [address, remaining] at same
  exact ⟨spared, silent, disabled, still, control, drained, left,
    continues.active.trans enabled, continued⟩

end Board

end SoundCard
