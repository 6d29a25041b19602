import Mathlib.Data.List.Basic
import SoundCard.Proofs.Machine
import SoundCard.Proofs.Queueing

/-!
# No byte is lost

What the host drained, followed by what is queued for it, is what the calls of the playback channel
fetched from memory, and what the host fed is what the calls of the capture channel stored to memory,
followed by what is queued for them. A call is told by the boards around it: it moved as many bytes as
the count of its channel fell, from or to the cursor before it.
-/

set_option autoImplicit false

namespace SoundCard

namespace Memory

/-- The cells that a write goes to, each with its byte. -/
def spread (address : UInt32) : List UInt8 → List (UInt32 × UInt8)
  | [] => []
  | byte :: rest => (address, byte) :: spread (address + 1) rest

theorem spread_append (address : UInt32) (first second : List UInt8) :
    spread address (first ++ second) =
      spread address first ++ spread (step address first.length) second := by
  induction first generalizing address with
  | nil => simp [spread]
  | cons byte rest ih => simp [spread, ih, step_succ]

theorem write_eq_foldl_spread (memory : Memory) (address : UInt32) (bytes : List UInt8) :
    memory.write address bytes =
      (spread address bytes).foldl (fun memory cell => memory.store cell.1 cell.2) memory := by
  induction bytes generalizing memory address with
  | nil => rfl
  | cons byte rest ih => exact ih ..

theorem bytes_spread (address : UInt32) (bytes : List UInt8) :
    (spread address bytes).map Prod.snd = bytes := by
  induction bytes generalizing address with
  | nil => rfl
  | cons byte rest ih => rw [spread, List.map_cons, ih]

theorem addresses_spread (address : UInt32) (bytes : List UInt8) :
    (spread address bytes).map Prod.fst = (List.range bytes.length).map (step address) := by
  induction bytes generalizing address with
  | nil => rfl
  | cons byte rest ih =>
      rw [spread, List.map_cons, ih, List.length_cons, List.range_succ_eq_map, List.map_cons,
        List.map_map, step_zero]
      refine congrArg (address :: ·) (List.map_congr_left fun distance _ => ?_)
      exact (step_succ address distance).symm

end Memory

namespace Action

/-- The cells that the actions store to, in order, each with its byte. -/
def stores (actions : List Action) : List (UInt32 × UInt8) :=
  actions.flatMap fun
    | .stored address bytes => Memory.spread address bytes
    | _ => []

theorem stores_append (first second : List Action) :
    stores (first ++ second) = stores first ++ stores second :=
  List.flatMap_append

theorem stores_notices (notices : List Notice) : stores (notices.map .notice) = [] := by
  induction notices with
  | nil => rfl
  | cons remark rest ih => exact ih

end Action

namespace Device

open SoundCard.Action

variable {σ : Type}

theorem stores_settle (device : Device σ) (channel : Channel) (count : Nat) :
    stores (device.settle channel count).2 = [] := by
  unfold settle
  dsimp only
  split <;> rfl

variable [Backend σ]

/-- The bytes that the backend gives are stored one after the other from the address on. -/
theorem stores_captureChunks (memory : Memory) (backend : σ) (staging : List UInt8)
    (address : UInt32) (want : Nat) (room : min want stagingSize ≤ staging.length) :
    let captured := captureChunks memory backend staging address want
    stores captured.actions = Memory.spread address (carried .capture captured.actions) := by
  fun_induction captureChunks memory backend staging address want with
  | case1 => rfl
  | case2 memory backend staging address want _ offered fill next _ buffer call taken stalled =>
      have nothing : (buffer.take offered).take fill.answer = [] := by
        rw [List.take_take, show min fill.answer offered = 0 from stalled, List.take_zero]
      have bytes : carried .capture [call] = [] := by
        simpa [call, moved, acquired] using nothing
      dsimp only
      rw [bytes]
      rfl
  | case3 memory backend staging address want _ offered fill next _ buffer call taken _ stored
      actions rest ih =>
      have kept : buffer.length = staging.length := Fill.length_into room
      have takenLength : stored.length = taken := by
        have within : taken ≤ offered := Nat.min_le_right ..
        rw [List.length_take]
        omega
      have bytes : carried .capture actions = stored := by
        simp [actions, call, stored, taken, moved, acquired, List.take_take]
      have cells : stores actions = Memory.spread address stored := by
        show [] ++ (Memory.spread address stored ++ stores (List.map _ _)) = _
        rw [stores_notices, List.append_nil, List.nil_append]
      dsimp only
      rw [stores_append, carried_append, bytes, cells, Memory.spread_append, takenLength]
      exact congrArg (_ ++ ·) (ih (by omega))

theorem stores_captureReady (device : Device σ) (memory : Memory) (available : Nat) :
    stores (device.captureReady memory available).2.2 =
      Memory.spread (device.registers.get .captureAddress)
        (carried .capture (device.captureReady memory available).2.2) := by
  unfold captureReady
  dsimp only
  split
  · rfl
  · have chunks := stores_captureChunks memory device.backend
      (List.replicate (min (min (device.registers.get .captureRemaining).toNat available)
        stagingSize) 0)
      (device.registers.get .captureAddress)
      (min (device.registers.get .captureRemaining).toNat available) (by simp)
    dsimp only
    rw [carried_append, carried_settle, List.append_nil, carried_cons, stores_append, stores_settle,
      List.append_nil]
    exact chunks

end Device

namespace Service

variable {σ : Type}

/-- By how much the count of the channel fell. -/
def lowered (service : Service σ) : Nat :=
  (service.before.words.get service.channel.remaining).toNat -
    (service.after.words.get service.channel.remaining).toNat

/-- The bytes of memory at the cursor, as many as the count fell by. -/
def fetched (service : Service σ) : List UInt8 :=
  service.before.memory.read (service.before.words.get service.channel.address) service.lowered

/-- The cells that the call stored to, each with its byte. -/
def stores (service : Service σ) : List (UInt32 × UInt8) :=
  Action.stores service.actions

def stored (service : Service σ) : List UInt8 :=
  service.stores.map Prod.snd

/-- The call stored a byte to each of the cells from the cursor on, as many as the count fell by, and
to nothing else. -/
structure Consecutive (service : Service σ) : Prop where
  addresses : service.stores.map Prod.fst =
    (List.range service.lowered).map
      (Memory.step (service.before.words.get service.channel.address))
  memory : service.after.memory =
    service.stores.foldl (fun memory cell => memory.store cell.1 cell.2) service.before.memory

end Service

/-- The calls of one channel. -/
def Service.on {σ : Type} (channel : Channel) (services : List (Service σ)) : List (Service σ) :=
  services.filter fun service => service.channel = channel

namespace Board

section

variable {σ : Type} [Backend σ]

/-- The service is a turn of the board before it. -/
def Serves (service : Service σ) (turn : Turn σ) : Prop :=
  turn.called? = some service.channel ∧
    service.before.turn turn = (service.after, service.actions)

theorem exists_serves {board : Board σ} {turns : List (Turn σ)} {service : Service σ}
    (member : service ∈ board.services turns) : ∃ turn, Serves service turn := by
  induction turns generalizing board with
  | nil => cases member
  | cons turn rest ih =>
      rcases List.mem_append.mp member with here | later
      · cases called : turn.called? with
        | none =>
            rw [called] at here
            cases here
        | some channel =>
            rw [called] at here
            obtain rfl := List.mem_singleton.mp here
            exact ⟨turn, called, rfl⟩
      · exact ih later

theorem Serves.lowered {service : Service σ} {turn : Turn σ} (serves : Serves service turn) :
    service.lowered = (Action.carried service.channel service.actions).length := by
  obtain ⟨called, served⟩ := serves
  have moved := service.before.remaining_turn (Turn.spares_of_called called service.channel).2
  rw [served] at moved
  dsimp only at moved
  unfold Service.lowered
  omega

theorem Serves.fetched {service : Service σ} {turn : Turn σ} (serves : Serves service turn)
    (playback : service.channel = .playback) :
    service.fetched = Action.carried .playback service.actions := by
  have taken := service.before.carried_turn_playback turn
  rw [serves.2] at taken
  rw [Service.fetched, serves.lowered, playback]
  exact taken.symm

theorem Serves.stores {service : Service σ} {turn : Turn σ} (serves : Serves service turn)
    (capture : service.channel = .capture) :
    service.stores = Memory.spread (service.before.words.get .captureAddress)
      (Action.carried .capture service.actions) := by
  obtain ⟨called, served⟩ := serves
  rw [capture] at called
  cases turn with
  | operate operation =>
      cases operation with
      | capture available =>
          have actions : (service.before.device.captureReady service.before.memory available).2.2 =
              service.actions := congrArg Prod.snd served
          rw [Service.stores, ← actions]
          exact service.before.device.stores_captureReady service.before.memory available
      | _ => cases called
  | _ => cases called

theorem Serves.consecutive {service : Service σ} {turn : Turn σ} (serves : Serves service turn)
    (capture : service.channel = .capture) : service.Consecutive := by
  have stores := serves.stores capture
  refine ⟨?_, ?_⟩
  · rw [stores, Memory.addresses_spread, serves.lowered, capture]
    rfl
  · rw [stores, ← Memory.write_eq_foldl_spread]
    obtain ⟨called, served⟩ := serves
    cases turn with
    | operate operation =>
        have memory := service.before.memory_perform operation
        rw [show (service.before.perform operation).2 = (service.after, service.actions) from
          served] at memory
        exact memory
    | _ => cases called

/-- What a session carried over a channel is what its calls carried. -/
theorem carried_session (board : Board σ) (turns : List (Turn σ)) (channel : Channel) :
    Action.carried channel (board.session turns).2 =
      (Service.on channel (board.services turns)).flatMap fun service =>
        Action.carried channel service.actions := by
  induction turns generalizing board with
  | nil => rfl
  | cons turn rest ih =>
      rw [session_cons, Action.carried_append, ih]
      unfold Service.on
      rw [services, List.filter_append, List.flatMap_append]
      congr 1
      cases called : turn.called? with
      | none =>
          rw [board.carried_turn (by rw [called]; exact nofun)]
          rfl
      | some served =>
          by_cases same : served = channel
          · subst same
            simp
          · rw [board.carried_turn (by rw [called]; exact fun equal => same (Option.some.inj equal))]
            simp [same]

theorem carried_session_fetched (board : Board σ) (turns : List (Turn σ)) :
    Action.carried .playback (board.session turns).2 =
      (Service.on .playback (board.services turns)).flatMap Service.fetched := by
  rw [carried_session]
  refine List.flatMap_congr fun service member => ?_
  obtain ⟨listed, playback⟩ := List.mem_filter.mp member
  obtain ⟨turn, serves⟩ := exists_serves listed
  exact (serves.fetched (of_decide_eq_true playback)).symm

theorem carried_session_stored (board : Board σ) (turns : List (Turn σ)) :
    Action.carried .capture (board.session turns).2 =
      (Service.on .capture (board.services turns)).flatMap Service.stored := by
  rw [carried_session]
  refine List.flatMap_congr fun service member => ?_
  obtain ⟨listed, capture⟩ := List.mem_filter.mp member
  obtain ⟨turn, serves⟩ := exists_serves listed
  rw [Service.stored, serves.stores (of_decide_eq_true capture), Memory.bytes_spread]

end

/-- Without the host, a session queues what it carries for playback and takes what it carries for
capture from the front of the queue. -/
theorem queues_session {board : Board Queues} {turns : List (Turn Queues)}
    (unhosted : ∀ turn ∈ turns, ∀ change, turn ≠ .host change) :
    (board.session turns).1.voices.playback.toList =
        board.voices.playback.toList ++ Action.carried .playback (board.session turns).2 ∧
      Action.carried .capture (board.session turns).2 ++
          (board.session turns).1.voices.capture.toList = board.voices.capture.toList := by
  induction turns generalizing board with
  | nil => exact ⟨(List.append_nil _).symm, rfl⟩
  | cons turn rest ih =>
      obtain ⟨unhostedFirst, unhostedRest⟩ := List.forall_mem_cons.mp unhosted
      have first : (board.turn turn).1.voices.playback.toList =
            board.voices.playback.toList ++ Action.carried .playback (board.turn turn).2 ∧
          Action.carried .capture (board.turn turn).2 ++
            (board.turn turn).1.voices.capture.toList = board.voices.capture.toList := by
        cases turn with
        | operate operation =>
            exact ⟨board.playback_perform operation, board.capture_perform operation⟩
        | host change => exact absurd rfl (unhostedFirst change)
        | _ => exact ⟨(List.append_nil _).symm, rfl⟩
      obtain ⟨queued, supplied⟩ := @ih (board.turn turn).1 unhostedRest
      rw [session_cons, Action.carried_append, Action.carried_append]
      constructor
      · rw [queued, first.1, List.append_assoc]
      · rw [List.append_assoc, supplied, first.2]

/-- One step neither loses nor repeats a byte. -/
theorem step_conserves (board : Board Queues) (step : Step) :
    let after := (board.step step).1
    let report := (board.step step).2
    report.drained ++ after.voices.playback.toList =
        board.voices.playback.toList ++
          (Service.on .playback report.services).flatMap Service.fetched ∧
      board.voices.capture.toList ++ report.fed =
        (Service.on .capture report.services).flatMap Service.stored ++
          after.voices.capture.toList := by
  have unhosted : ∀ step, (∀ turn ∈ board.turns step, ∀ change, turn ≠ .host change) →
      (board.session (board.turns step)).1.voices.playback.toList =
          board.voices.playback.toList ++
            (Service.on .playback (board.services (board.turns step))).flatMap Service.fetched ∧
        board.voices.capture.toList ++ [] =
          (Service.on .capture (board.services (board.turns step))).flatMap Service.stored ++
            (board.session (board.turns step)).1.voices.capture.toList := by
    intro step free
    rw [← carried_session_fetched, ← carried_session_stored, List.append_nil]
    exact ⟨(queues_session free).1, (queues_session free).2.symm⟩
  cases step with
  | operate operation =>
      refine unhosted (.operate operation) fun turn member => ?_
      obtain rfl := List.mem_singleton.mp member
      exact nofun
  | store address bytes =>
      refine unhosted (.store address bytes) fun turn member => ?_
      obtain rfl := List.mem_singleton.mp member
      exact nofun
  | tick =>
      rw [step_eq_session]
      exact unhosted .tick fun turn member => turns_tick_ne_host member
  | host action =>
      cases action with
      | drain most =>
          refine ⟨?_, List.append_nil _⟩
          exact (Fifo.take_append_toList ..).trans (List.append_nil _).symm
      | feed bytes => exact ⟨(List.append_nil _).symm, (Fifo.toList_push ..).symm⟩

theorem steps_conserve (board : Board Queues) (steps : List Step) :
    let after := (board.steps steps).1
    let reports := (board.steps steps).2
    let services := reports.flatMap Report.services
    reports.flatMap Report.drained ++ after.voices.playback.toList =
        board.voices.playback.toList ++
          (Service.on .playback services).flatMap Service.fetched ∧
      board.voices.capture.toList ++ reports.flatMap Report.fed =
        (Service.on .capture services).flatMap Service.stored ++
          after.voices.capture.toList := by
  induction steps generalizing board with
  | nil => exact ⟨(List.append_nil _).symm, List.append_nil _⟩
  | cons step rest ih =>
      obtain ⟨playedFirst, fedFirst⟩ := board.step_conserves step
      obtain ⟨playedRest, fedRest⟩ := ih (board.step step).1
      dsimp only at playedFirst fedFirst playedRest fedRest ⊢
      unfold Service.on at playedFirst fedFirst playedRest fedRest ⊢
      simp only [steps_cons, List.flatMap_cons, List.filter_append, List.flatMap_append,
        List.append_assoc]
      constructor
      · rw [playedRest, ← List.append_assoc, playedFirst, List.append_assoc]
      · rw [← List.append_assoc, fedFirst, List.append_assoc, fedRest]

theorem services_step (board : Board Queues) (step : Step) :
    (board.step step).2.services = board.services (board.turns step) := by
  cases step <;> rfl

theorem exists_serves_of_steps {board : Board Queues} {steps : List Step}
    {service : Service Queues}
    (member : service ∈ (board.steps steps).2.flatMap Report.services) :
    ∃ turn, Serves service turn := by
  induction steps generalizing board with
  | nil => cases member
  | cons step rest ih =>
      rw [steps_cons, List.flatMap_cons] at member
      rcases List.mem_append.mp member with here | later
      · rw [services_step] at here
        exact exists_serves here
      · exact ih later

/-- From power on, whatever happens to a machine: the host gets the bytes that the calls of the
playback channel found in memory, each of them once and in order, and the calls of the capture
channel store the bytes that the host gave, each of them once and in order. What is missing in
between is queued. -/
theorem sound_conserved (capacity : Nat) (memory : Memory) (journal : Journal Event)
    (watched : Bool) (phases : List Phase) :
    let machine := (powerOn (Queues.closed capacity) memory journal watched).1.phases phases
    let voices := machine.1.voices
    let services := machine.2.flatMap Report.services
    machine.2.flatMap Report.drained ++ voices.playback.toList =
        (Service.on .playback services).flatMap Service.fetched ∧
      machine.2.flatMap Report.fed =
        (Service.on .capture services).flatMap Service.stored ++ voices.capture.toList ∧
      ∀ service ∈ Service.on .capture services, service.Consecutive := by
  have fresh : (powerOn (Queues.closed capacity) memory journal watched).1.voices.playback.toList =
        [] ∧
      (powerOn (Queues.closed capacity) memory journal watched).1.voices.capture.toList = [] := by
    unfold voices
    rw [powerOn, device_carryOut]
    exact ⟨rfl, rfl⟩
  obtain ⟨steps, same⟩ :=
    (powerOn (Queues.closed capacity) memory journal watched).1.exists_steps phases
  obtain ⟨played, supplied⟩ :=
    (powerOn (Queues.closed capacity) memory journal watched).1.steps_conserve steps
  dsimp only at played supplied ⊢
  rw [fresh.1, List.nil_append] at played
  rw [fresh.2, List.nil_append] at supplied
  rw [same]
  refine ⟨played, supplied, fun service member => ?_⟩
  obtain ⟨listed, capture⟩ := List.mem_filter.mp member
  obtain ⟨turn, serves⟩ := exists_serves_of_steps listed
  exact serves.consecutive (of_decide_eq_true capture)

/-- A host that feeds three bytes and drains what was played before each tick, while two of the bytes
are captured to memory and played from there. -/
theorem sound_conserved_loop :
    let hook : Hook Nat := fun ticks _ => (ticks + 1, [.drain 1, .feed [UInt8.ofNat ticks]])
    let phases : List Phase := [.step (.operate (.write 9 1)), .step (.operate (.write 10 2)),
      .step (.operate (.write 8 1)), .step (.host (.feed [5, 6, 7])), .step .tick,
      .step (.operate (.write 6 3)), .step (.operate (.write 4 1)), .run .playbackDone 4 hook 0]
    let machine := ((powerOn (Queues.closed 1) (.zeros 0 8) (.empty false) false).1.phases phases)
    let voices := machine.1.voices
    let services := machine.2.flatMap Report.services
    machine.2.flatMap Report.drained = [0, 5] ∧ voices.playback.toList = [6] ∧
      voices.capture.toList = [7, 0, 1, 2] ∧
      (Service.on .playback services).flatMap Service.fetched = [0, 5, 6] ∧
      ∃ service ∈ Service.on .capture services, service.Consecutive ∧ service.lowered = 2 := by
  intro hook phases machine voices services
  have drained : machine.2.flatMap Report.drained = [0, 5] := by decide +kernel
  have queued : voices.playback.toList = [6] := by decide +kernel
  have served : 0 < (Service.on .capture services).length := by decide +kernel
  have lowered : ∀ inside, ((Service.on .capture services).get ⟨0, inside⟩).lowered = 2 := by
    decide +kernel
  obtain ⟨played, _, consecutive⟩ :=
    sound_conserved 1 (.zeros 0 8) (.empty false) false phases
  have fetched : (Service.on .playback services).flatMap Service.fetched = [0, 5, 6] := by
    rw [← played, drained, queued]
    rfl
  exact ⟨drained, queued, by decide +kernel, fetched, (Service.on .capture services)[0],
    List.getElem_mem served, consecutive _ (List.getElem_mem served), lowered served⟩

end Board

end SoundCard
