import SoundCard.Proofs.Schedule

/-!
# The events as a chronicle

A debugger that records from power on can tell from the events alone what the card holds. The words
are those that replaying the events from zero words gives, every event of a read shows the word as it
was then, the events of interrupts are the rising edges and each of them follows directly on its
cause, and the amounts of the transfers are the bytes that the backend took or gave.

An operation is told by at most one event, after which comes the interrupt that it causes, if it
causes one. A session is told by the events of its operations one after the other, as long as the card
is not reset, no snapshot is restored and nobody takes the edges away.
-/

set_option autoImplicit false

namespace SoundCard

/-!
## Replaying events
-/

namespace Bank

/-- The words after an event. -/
def react (bank : Bank) : Event → Bank
  | .registerWrite .codecControl value => bank.set .codecControl (CodecControl.mk value).settled
  | .registerWrite register value => bank.set register value
  | .transfer channel count =>
    (bank.set channel.address (bank.get channel.address + count)).set channel.remaining
      (bank.get channel.remaining - count)
  | .registerRead _ _ | .interrupt _ => bank

def replay (bank : Bank) (events : List Event) : Bank :=
  events.foldl react bank

end Bank

namespace Event

def interrupt? : Event → Option Line
  | .interrupt line => some line
  | _ => none

/-- The line on which the event causes an interrupt, told by the words before it. -/
def raised? (bank : Bank) : Event → Option Line
  | .registerWrite .codecControl value => (CodecControl.mk value).announced.head?
  | .transfer channel count =>
    if bank.Completes (bank.react (.transfer channel count)) channel then some channel.line else none
  | _ => none

/-- How many bytes went over the channel because of the event. -/
def amount (channel : Channel) : Event → Nat
  | .transfer moved count => if moved = channel then count.toNat else 0
  | _ => 0

/-- The events of reads show the words as they are, and an interrupt follows exactly on an event that
causes it. -/
def Faithful : Bank → List Event → Prop
  | _, [] => True
  | bank, event :: rest =>
    (∀ register value, event = .registerRead register value → value = bank.get register) ∧
      rest.head?.bind interrupt? = event.raised? bank ∧ Faithful (bank.react event) rest

theorem Faithful.append {bank : Bank} {first second : List Event} (before : Faithful bank first)
    (after : Faithful (bank.replay first) second)
    (opened : second.head?.bind interrupt? = none) : Faithful bank (first ++ second) := by
  induction first generalizing bank with
  | nil => exact after
  | cons event rest ih =>
      obtain ⟨shown, caused, later⟩ := before
      refine ⟨shown, ?_, ih later after⟩
      cases rest with
      | nil => exact opened.trans caused
      | cons next rest => exact caused

/-- What is said of the first event holds of each one, with the words that the events before it
give. -/
theorem Faithful.at {bank : Bank} {before after : List Event} {event : Event}
    (faithful : Faithful bank (before ++ event :: after)) :
    (∀ register value, event = .registerRead register value →
        value = (bank.replay before).get register) ∧
      after.head?.bind interrupt? = event.raised? (bank.replay before) := by
  induction before generalizing bank with
  | nil => exact ⟨faithful.1, faithful.2.1⟩
  | cons first rest ih => exact ih faithful.2.2

end Event

namespace Action

/-!
## What a debugger does not hear of
-/

/-- The answer of the backend to the action over a channel, capped at what was offered. -/
def answered : Channel → Action → Nat
  | .playback, .played offered answer => min answer offered.length
  | .capture, .recorded room _ answer => min answer room
  | _, _ => 0

def granted (channel : Channel) (actions : List Action) : Nat :=
  (actions.map (answered channel)).sum

@[simp] theorem granted_nil (channel : Channel) : granted channel [] = 0 := rfl

@[simp] theorem granted_cons (channel : Channel) (action : Action) (rest : List Action) :
    granted channel (action :: rest) = action.answered channel + granted channel rest := rfl

@[simp] theorem granted_append (channel : Channel) (first second : List Action) :
    granted channel (first ++ second) = granted channel first + granted channel second := by
  simp [granted]

@[simp] theorem granted_notices (channel : Channel) (notices : List Notice) :
    granted channel (notices.map .notice) = 0 := by
  induction notices with
  | nil => rfl
  | cons remark rest ih => rw [List.map_cons, granted_cons, ih]; cases channel <;> rfl

@[simp] theorem granted_pulse (channel : Channel) (line : Line) :
    granted channel (pulse line) = 0 := by
  cases channel <;> rfl

/-- The actions have no event, drive no line and ask nothing of the voices. -/
def Unheard (actions : List Action) : Prop :=
  events actions = [] ∧ driven actions = [] ∧ ∀ channel, granted channel actions = 0

theorem unheard_notices (notices : List Notice) : Unheard (notices.map .notice) :=
  ⟨events_notices notices, driven_notices notices, fun channel => granted_notices channel notices⟩

theorem Unheard.append {first second : List Action} (before : Unheard first)
    (after : Unheard second) : Unheard (first ++ second) := by
  obtain ⟨events, driven, granted⟩ := before
  refine ⟨?_, ?_, fun channel => ?_⟩
  · rw [events_append, events, after.1, List.nil_append]
  · rw [driven_append, driven, after.2.1, List.nil_append]
  · rw [granted_append, granted, after.2.2]

end Action

namespace Device

open SoundCard.Action

variable {σ : Type}

theorem unheard_unknownAccess (access : Access) (index : Nat) :
    Unheard (unknownAccess access index) :=
  ⟨rfl, rfl, fun channel => by cases channel <;> rfl⟩

variable [Backend σ]

theorem unheard_switch (device : Device σ) (channel : Channel) (active : Bool) :
    Unheard (device.switch channel active).2 := by
  have switched : Unheard [.switched channel active] :=
    ⟨rfl, rfl, fun other => by cases other <;> rfl⟩
  exact switched.append (unheard_notices (Backend.setActive device.backend channel active).2)

theorem unheard_updateVoices (device : Device σ) : Unheard device.updateVoices.2 :=
  (device.unheard_switch .playback _).append (unheard_switch _ .capture _)

end Device

/-!
## Operations
-/

/-- How an operation is told: not at all, if it leaves the words alone, or by one event and the
interrupt that this causes. -/
inductive Told (before : Bank) (actions : List Action) : Bank → Prop where
  | unheard (unheard : Action.Unheard actions) : Told before actions before
  | event (event : Event) (told : event.interrupt? = none)
      (shown : ∀ register value, event = .registerRead register value → value = before.get register)
      (events : Action.events actions = event :: (event.raised? before).toList.map .interrupt)
      (driven : Action.driven actions = Action.pulses (event.raised? before).toList)
      (granted : ∀ channel, Action.granted channel actions = event.amount channel) :
      Told before actions (before.react event)

namespace Device

open SoundCard.Action

variable {σ : Type}

theorem told_read (device : Device σ) (index : Nat) :
    Told device.registers (device.read index).2 device.registers := by
  unfold read
  cases Register.reached? index with
  | none => exact .unheard (unheard_unknownAccess .read index)
  | some register =>
      refine .event (.registerRead register (device.registers.get register)) rfl ?_ rfl rfl
        fun channel => by cases channel <;> rfl
      rintro _ _ ⟨⟩
      rfl

variable [Backend σ]

/-- Storing a value has no event but the interrupt of a codec command. -/
theorem heard_store (device : Device σ) (register : Register) (value : UInt32) :
    events (device.store register value).2 =
        ((Event.registerWrite register value).raised? device.registers).toList.map .interrupt ∧
      driven (device.store register value).2 =
        pulses ((Event.registerWrite register value).raised? device.registers).toList ∧
      ∀ channel, granted channel (device.store register value).2 = 0 := by
  cases register with
  | codecControl =>
      unfold store Event.raised? CodecControl.announced
      dsimp only
      split
      · exact ⟨rfl, rfl, fun channel => granted_pulse channel _⟩
      · exact ⟨rfl, rfl, fun channel => rfl⟩
  | playbackControl | captureControl => exact unheard_updateVoices _
  | _ => exact ⟨rfl, rfl, fun channel => rfl⟩

theorem told_write (device : Device σ) (index : Nat) (value : UInt32) :
    Told device.registers (device.write index value).2 (device.registers.write index value) := by
  unfold write Bank.write
  cases Register.reached? index with
  | none => exact .unheard (unheard_unknownAccess .write index)
  | some register =>
      obtain ⟨events, driven, granted⟩ := device.heard_store register value
      have told : Told device.registers
          (.notice (.registerAccess .write register value) ::
            .event (.registerWrite register value) :: (device.store register value).2)
          (device.registers.react (.registerWrite register value)) := by
        refine .event (.registerWrite register value) rfl nofun ?_ ?_ fun channel => ?_
        · rw [events_cons, events_cons, events]
          rfl
        · rw [driven_cons, driven_cons, driven]
          rfl
        · rw [granted_cons, granted_cons, granted]
          cases channel <;> rfl
      cases register <;> exact told

end Device

theorem Chunk.granted_actions (memory : Memory) (channel other : Channel) (chunks : List Chunk) :
    Action.granted other (chunks.flatMap (actions memory channel)) =
      if channel = other then moved chunks else 0 := by
  induction chunks with
  | nil => cases channel <;> cases other <;> rfl
  | cons chunk rest ih =>
      have first : Action.granted other (chunk.actions memory channel) =
          if channel = other then chunk.taken else 0 := by
        cases channel with
        | playback => cases other <;> simp [actions, Action.answered, taken, offer]
        | capture =>
            dsimp only [actions]
            split <;> cases other <;> simp [Action.answered, taken]
      rw [List.flatMap_cons, Action.granted_append, first, ih, moved_cons]
      split <;> rfl

theorem Device.granted_booking (before : Bank) (channel other : Channel) (total : Nat) :
    Action.granted other (booking before channel total) = 0 := by
  unfold booking
  split <;> cases other <;> rfl

namespace Board

open SoundCard.Action

variable {σ : Type} [Backend σ]

theorem Exchanged.granted {board after : Board σ} {channel : Channel} {budget : Nat}
    {chunks : List Chunk} {actions : List Action}
    (exchanged : board.Exchanged channel budget chunks after actions) (other : Channel) :
    Action.granted other actions = if channel = other then Chunk.moved chunks else 0 := by
  rw [exchanged.actions, granted_append, granted_cons, Chunk.granted_actions,
    Device.granted_booking]
  cases other <;> exact Nat.zero_add _

theorem told_call (board : Board σ) (channel : Channel) (budget : Nat) :
    Told board.words (board.perform (.call channel budget)).2.2
      (board.perform (.call channel budget)).2.1.words := by
  by_cases wanted : 0 < min (board.words.get channel.remaining).toNat budget
  · obtain ⟨chunks, exchanged⟩ := board.exists_exchanged wanted
    have words : (board.perform (.call channel budget)).2.1.words =
        board.words.react (.transfer channel (UInt32.ofNat (Chunk.moved chunks))) :=
      exchanged.words
    have driven : Action.driven (board.perform (.call channel budget)).2.2 = pulses
        ((Operation.call channel budget).edges board.words
          (board.perform (.call channel budget)).2.1.words) := board.driven_perform _
    have raised : ((Event.transfer channel (UInt32.ofNat (Chunk.moved chunks))).raised?
        board.words).toList = (Operation.call channel budget).edges board.words
          (board.perform (.call channel budget)).2.1.words := by
      rw [Operation.edges_call, words]
      dsimp only [Event.raised?]
      split <;> rfl
    rw [← raised] at driven
    rw [words]
    refine .event (.transfer channel (UInt32.ofNat (Chunk.moved chunks))) rfl nofun ?_ ?_
      fun other => ?_
    · rw [exchanged.events, raised, Operation.edges_call]
      split <;> rfl
    · exact driven
    · rw [exchanged.granted, Event.amount, exchanged.counted]
  · have nothing : min (board.words.get channel.remaining).toNat budget = 0 := by omega
    rw [board.perform_call_nothing nothing]
    exact .unheard (unheard_notices [_])

end Board

/-!
## Sessions
-/

/-- The events of the actions tell what became of the words, of the lines and of the bytes. -/
structure Chronicle (before : Bank) (actions : List Action) (after : Bank) : Prop where
  words : after = before.replay (Action.events actions)
  faithful : Event.Faithful before (Action.events actions)
  opened : (Action.events actions).head?.bind Event.interrupt? = none
  driven : Action.driven actions =
    Action.pulses ((Action.events actions).filterMap Event.interrupt?)
  granted : ∀ channel, Action.granted channel actions =
    ((Action.events actions).map (Event.amount channel)).sum

theorem Chronicle.unheard {bank : Bank} {actions : List Action} (unheard : Action.Unheard actions) :
    Chronicle bank actions bank := by
  obtain ⟨events, driven, granted⟩ := unheard
  constructor
  · rw [events]
    rfl
  · rw [events]
    trivial
  · rw [events]
    rfl
  · rw [events]
    exact driven
  · intro channel
    rw [events]
    exact granted channel

theorem Told.chronicle {before after : Bank} {actions : List Action}
    (told : Told before actions after) : Chronicle before actions after := by
  cases told with
  | unheard unheard => exact .unheard unheard
  | event event told shown events driven granted =>
      cases raised : event.raised? before with
      | none =>
          simp only [raised, Option.toList_none, List.map_nil] at events driven
          constructor
          · simp [events, Bank.replay]
          · exact events ▸ ⟨shown, raised.symm, trivial⟩
          · simp [events, told]
          · simp [events, driven, told]
          · simp [events, granted]
      | some line =>
          have silent : ∀ bank, Event.Faithful bank [.interrupt line] :=
            fun bank => ⟨nofun, rfl, trivial⟩
          simp only [raised, Option.toList_some, List.map_cons, List.map_nil] at events driven
          constructor
          · simp [events, Bank.replay, Bank.react]
          · exact events ▸ ⟨shown, raised.symm, silent _⟩
          · simp [events, told]
          · rw [events, driven, List.filterMap_cons_none told]
            rfl
          · simp [events, granted, Event.amount]

theorem Chronicle.append {before between after : Bank} {first second : List Action}
    (earlier : Chronicle before first between) (later : Chronicle between second after) :
    Chronicle before (first ++ second) after := by
  have words := earlier.words
  constructor
  · rw [Action.events_append, Bank.replay, List.foldl_append]
    exact later.words.trans (by rw [words]; rfl)
  · rw [Action.events_append]
    exact earlier.faithful.append (words ▸ later.faithful) later.opened
  · rw [Action.events_append, List.head?_append]
    cases heard : (Action.events first).head? with
    | none => exact later.opened
    | some event =>
        have opened := earlier.opened
        rwa [heard] at opened
  · rw [Action.events_append, Action.driven_append, earlier.driven, later.driven,
      List.filterMap_append]
    exact List.flatMap_append.symm
  · intro channel
    rw [Action.events_append, Action.granted_append, earlier.granted, later.granted, List.map_append,
      List.sum_append]

theorem History.entries_foldl_push {limit : Nat} {α : Type} (history : History limit α)
    (fits : history.size ≤ limit) (entries : List α) :
    (entries.foldl push history).entries = (entries.reverse ++ history.entries).take limit := by
  induction entries generalizing history with
  | nil => exact (List.take_of_length_le fits).symm
  | cons entry rest ih =>
      refine (ih (history.push entry) (history.size_push_le entry)).trans ?_
      rw [entries_push, List.reverse_cons, List.append_assoc, List.singleton_append,
        List.take_append, List.take_append, List.take_take]
      congr 2
      omega

namespace Turn

variable {σ : Type}

/-- The turn leaves the chronicle complete: it neither resets the card nor restores a snapshot, and
nobody takes the edges. -/
def Chronicled (turn : Turn σ) : Prop :=
  turn ≠ .takePulses ∧ turn.operation? ≠ some .reset ∧ turn.restored? = none

end Turn

namespace Board

variable {σ : Type} [Backend σ]

theorem told_perform (board : Board σ) {operation : Operation} (kept : operation ≠ .reset)
    (unrestored : operation.restored? = none) :
    Told board.words (board.perform operation).2.2 (board.perform operation).2.1.words := by
  have words : (board.perform operation).2.1.words = operation.words board.words
      fun channel => Action.carried channel (board.perform operation).2.2 :=
    board.words_perform operation
  cases operation with
  | busRead offset =>
      rw [words]
      exact board.device.told_read (Device.position offset)
  | read index =>
      rw [words]
      exact board.device.told_read index
  | busWrite offset value =>
      rw [words]
      exact board.device.told_write (Device.position offset) value
  | write index value =>
      rw [words]
      exact board.device.told_write index value
  | updateVoices =>
      rw [words]
      exact .unheard board.device.unheard_updateVoices
  | reset => exact absurd rfl kept
  | save => exact .unheard (Action.unheard_notices [])
  | load snapshot =>
      cases found : Snapshot.restore snapshot with
      | error refusal =>
          rw [perform_load_refused board found]
          exact .unheard (Action.unheard_notices [])
      | ok registers =>
          rw [Operation.restored?, found] at unrestored
          cases unrestored
  | playback free => exact board.told_call .playback free
  | capture available => exact board.told_call .capture available

theorem chronicle_turn (board : Board σ) {turn : Turn σ} (chronicled : turn.Chronicled) :
    Chronicle board.words (board.turn turn).2 (board.turn turn).1.words := by
  obtain ⟨untaken, kept, unrestored⟩ := chronicled
  cases turn with
  | operate operation =>
      have unreset : operation ≠ .reset := fun same => kept (congrArg some same)
      exact (board.told_perform unreset unrestored).chronicle
  | store | host => exact .unheard (Action.unheard_notices [])
  | takePulses => exact absurd rfl untaken

theorem chronicle_session (board : Board σ) {turns : List (Turn σ)}
    (chronicled : ∀ turn ∈ turns, turn.Chronicled) :
    Chronicle board.words (board.session turns).2 (board.session turns).1.words := by
  induction turns generalizing board with
  | nil => exact .unheard (Action.unheard_notices [])
  | cons turn rest ih =>
      obtain ⟨first, others⟩ := List.forall_mem_cons.mp chronicled
      exact (board.chronicle_turn first).append (ih (board.turn turn).1 others)

/-- While nobody takes the edges, the recorder sees what the card drives and nothing else. -/
theorem lines_session (board : Board σ) {turns : List (Turn σ)}
    (untaken : ∀ turn ∈ turns, turn ≠ .takePulses) :
    (board.session turns).1.lines =
      (Action.driven (board.session turns).2).foldl
        (fun lines drive => lines.drive drive.1 drive.2) board.lines := by
  induction turns generalizing board with
  | nil => rfl
  | cons turn rest ih =>
      obtain ⟨first, others⟩ := List.forall_mem_cons.mp untaken
      have lines : (board.turn turn).1.lines = (Action.driven (board.turn turn).2).foldl
          (fun lines drive => lines.drive drive.1 drive.2) board.lines := by
        cases turn with
        | operate operation => exact board.lines_perform_eq_foldl operation
        | store | host => rfl
        | takePulses => exact absurd rfl first
      rw [session_cons, Action.driven_append, List.foldl_append, ← lines]
      exact ih (board.turn turn).1 others

theorem events_session (board : Board σ) (recording : board.Recording) (turns : List (Turn σ)) :
    (board.session turns).1.journal.events =
      (Action.events (board.session turns).2).foldl History.push board.journal.events := by
  induction turns generalizing board with
  | nil => rfl
  | cons turn rest ih =>
      have first : (board.turn turn).1.Recording ∧ (board.turn turn).1.journal.events =
          (Action.events (board.turn turn).2).foldl History.push board.journal.events := by
        cases turn with
        | operate operation =>
            refine ⟨(board.recording_perform operation).mpr recording, ?_⟩
            exact (board.events_perform operation).trans (if_pos recording)
        | store | host | takePulses => exact ⟨recording, rfl⟩
      rw [session_cons, Action.events_append, List.foldl_append, ← first.2]
      exact ih (board.turn turn).1 first.1

theorem events_powerOn (backend : σ) (memory : Memory) :
    let board := (powerOn backend memory (.empty true) true).1
    board.Recording ∧ board.journal.events = .empty := by
  refine ⟨(recording_carryOut ..).mpr ⟨rfl, rfl⟩, (events_carryOut ..).trans ?_⟩
  rw [if_pos ⟨rfl, rfl⟩, Action.events_cons, Action.events_notices]
  rfl

/-- The events that a debugger hears of from power on are a complete chronicle of the card. -/
theorem chronicle_complete (backend : σ) (memory : Memory) (turns : List (Turn σ))
    (chronicled : ∀ turn ∈ turns, turn.Chronicled) :
    let start := (powerOn backend memory (.empty true) true).1
    let now := (start.session turns).1
    let events := Action.events (start.session turns).2
    now.journal.events.entries = events.reverse.take 1024 ∧
      now.words = Bank.replay .zero events ∧
      (∀ before register value after, events = before ++ .registerRead register value :: after →
        value = (Bank.replay .zero before).get register) ∧
      events.filterMap Event.interrupt? = now.lines.pending ∧
      (∀ before line after, events = before ++ .interrupt line :: after →
        ∃ earlier cause, before = earlier ++ [cause] ∧
          cause.raised? (Bank.replay .zero earlier) = some line) ∧
      (∀ before cause after line, events = before ++ cause :: after →
        cause.raised? (Bank.replay .zero before) = some line →
        after.head? = some (.interrupt line)) ∧
      ∀ channel, (events.map (Event.amount channel)).sum =
        Action.granted channel (start.session turns).2 := by
  intro start now events
  obtain ⟨recording, unheard⟩ := events_powerOn backend memory
  have low := allLow_powerOn backend memory (.empty true) true
  have words : start.words = .zero := words_powerOn ..
  have lines : start.lines = .quiet := lines_powerOn ..
  have chronicle := start.chronicle_session chronicled
  rw [words] at chronicle
  have faithful : Event.Faithful .zero events := chronicle.faithful
  have opened : events.head?.bind Event.interrupt? = none := chronicle.opened
  refine ⟨?_, chronicle.words, ?_, ?_, ?_, ?_, fun channel => (chronicle.granted channel).symm⟩
  · have journal : now.journal.events = events.foldl History.push .empty :=
      unheard ▸ start.events_session recording turns
    rw [journal, History.entries_foldl_push _ (Nat.zero_le _)]
    exact congrArg (List.take 1024) (List.append_nil _)
  · intro before register value after split
    rw [split] at faithful
    exact faithful.at.1 register value rfl
  · have raised : now.lines = start.lines.note (events.filterMap Event.interrupt?) := by
      rw [← Recorder.foldl_pulses low, ← chronicle.driven]
      exact start.lines_session fun turn member => (chronicled turn member).1
    rw [raised, lines]
    exact (List.nil_append _).symm
  · intro before line after split
    rcases List.eq_nil_or_concat before with rfl | ⟨earlier, cause, rfl⟩
    · rw [split] at opened
      cases opened
    · rw [List.concat_eq_append] at split ⊢
      rw [split, List.append_assoc] at faithful
      exact ⟨earlier, cause, rfl, faithful.at.2.symm⟩
  · intro before cause after line split raised
    rw [split] at faithful
    have follows := faithful.at.2
    rw [raised] at follows
    obtain ⟨event, first, interrupt⟩ := Option.bind_eq_some_iff.mp follows
    cases event with
    | interrupt other =>
        cases interrupt
        exact first
    | _ => cases interrupt

/-- A call that is cut short, one that ends the transfer, a read, a codec command and a write to no
word. -/
theorem chronicle_complete_scripted :
    let start : Board Scripted :=
      (powerOn ⟨[2, 0, 9], 0, [], [], false, false⟩ ⟨0, #[1, 2, 3]⟩ (.empty true) true).1
    let turns : List (Turn Scripted) :=
      [.operate (.write 6 3), .operate (.write 4 1), .operate (.playback 5),
        .operate (.playback 5), .operate (.busRead 24), .operate (.busWrite 0 3),
        .operate (.write 99 1)]
    let now := (start.session turns).1
    let told : List Event :=
      [.registerWrite .playbackRemaining 3, .registerWrite .playbackControl 1,
        .transfer .playback 2, .transfer .playback 1, .interrupt .playbackDone]
    (∀ turn ∈ turns, turn.Chronicled) ∧
      Action.events (start.session turns).2 =
        told ++ .registerRead .playbackRemaining 0 ::
          [.registerWrite .codecControl 3, .interrupt .codecRequest] ∧
      (Bank.replay .zero told).get .playbackRemaining = 0 ∧
      now.words.get .playbackAddress = 3 ∧
      now.lines.pending = [.playbackDone, .codecRequest] ∧
      Action.granted .playback (start.session turns).2 = 3 := by
  intro start turns now told
  have chronicled : ∀ turn ∈ turns, turn.Chronicled := by
    have plain : ∀ operation, operation ≠ .reset → operation.restored? = none →
        (Turn.operate operation : Turn Scripted).Chronicled :=
      fun operation kept unrestored => ⟨nofun, fun same => kept (Option.some.inj same), unrestored⟩
    intro turn member
    simp only [turns, List.mem_cons, List.not_mem_nil, or_false] at member
    rcases member with rfl | rfl | rfl | rfl | rfl | rfl | rfl <;> exact plain _ nofun rfl
  have events : Action.events (start.session turns).2 =
      told ++ .registerRead .playbackRemaining 0 ::
        [.registerWrite .codecControl 3, .interrupt .codecRequest] := by decide +kernel
  obtain ⟨_, words, shown, pending, _, _, granted⟩ :=
    chronicle_complete ⟨[2, 0, 9], 0, [], [], false, false⟩ ⟨0, #[1, 2, 3]⟩ turns chronicled
  refine ⟨chronicled, events, (shown told _ _ _ events).symm, ?_, ?_, ?_⟩
  · rw [words, events]
    decide +kernel
  · rw [← pending, events]
    rfl
  · rw [← granted, events]
    rfl

end Board

end SoundCard
