import SoundCard.Board.Run
import SoundCard.Proofs.Lifecycle

/-!
# Machines

A board whose voices are queues, together with a host that drains and feeds them and a sound system
that ticks. A step is the least thing that happens to such a machine, and a phase is a step or a whole
run with whatever hook the host has. Beside the next board, a step reports what can be seen of it and
which calls of the channels it made. A tick is a list of turns, and a run is a list of steps, so that
whatever holds of those holds of it.
-/

set_option autoImplicit false

namespace SoundCard

inductive HostAction where
  | drain (most : Nat)
  | feed (bytes : List UInt8)
  deriving DecidableEq

namespace HostAction

/-- The bytes that the host gets. -/
def drained (queues : Queues) : HostAction → List UInt8
  | .drain most => (queues.drain most).1
  | .feed _ => []

/-- The bytes that the host gives. -/
def fed : HostAction → List UInt8
  | .drain _ => []
  | .feed bytes => bytes

end HostAction

def Queues.host (queues : Queues) : HostAction → Queues
  | .drain most => (queues.drain most).2
  | .feed bytes => queues.feed bytes

/-- What the host does before a tick. It sees the queues and keeps a state of its own, but it only
drains and feeds. -/
abbrev Hook (η : Type) : Type :=
  η → Queues → η × List HostAction

def Hook.turn {η : Type} (hook : Hook η) (host : η) (queues : Queues) : η × Queues :=
  ((hook host queues).1, (hook host queues).2.foldl Queues.host queues)

inductive Step where
  | operate (operation : Operation)
  | host (action : HostAction)
  /-- The host stores bytes to guest memory. -/
  | store (address : UInt32) (bytes : List UInt8)
  | tick
  deriving DecidableEq

inductive Phase : Type 1 where
  | step (step : Step)
  | run {η : Type} (line : Line) (limit : Nat) (hook : Hook η) (host : η)

/-- One call of a channel, with the boards before and after it. -/
structure Service (σ : Type) where
  channel : Channel
  before : Board σ
  after : Board σ
  actions : List Action

structure Report where
  reply : Reply
  /-- The lines that rose, in order. -/
  edges : List Line
  drained : List UInt8
  fed : List UInt8
  services : List (Service Queues)

/-- The lines that rise when the actions are carried out, in order: what an interrupt controller
would find waiting that had taken everything before. -/
def Recorder.rising (recorder : Recorder) (actions : List Action) : List Line :=
  let listening := { recorder with pending := [] }
  let driven := (Action.driven actions).foldl (fun lines drive => lines.drive drive.1 drive.2)
    listening
  driven.pending

namespace Board

/-- The calls of channels in a session. -/
def services {σ : Type} [Backend σ] (board : Board σ) : List (Turn σ) → List (Service σ)
  | [] => []
  | turn :: rest =>
    let (after, actions) := board.turn turn
    turn.called?.toList.map (fun channel => ⟨channel, board, after, actions⟩) ++
      after.services rest

/-- The call that a tick owes a channel, if its voice is active. -/
def duty (board : Board Queues) : Channel → List (Turn Queues)
  | .playback =>
    if board.voices.playbackActive then [.operate (.playback board.voices.free)] else []
  | .capture =>
    if board.voices.captureActive then [.operate (.capture board.voices.available)] else []

/-- The turns that a step amounts to. -/
def turns (board : Board Queues) : Step → List (Turn Queues)
  | .operate operation => [.operate operation]
  | .host action => [.host (·.host action)]
  | .store address bytes => [.store address bytes]
  | .tick => board.duty .playback ++ board.servePlayback.1.duty .capture ++ [.takePulses]

def step (board : Board Queues) (step : Step) : Board Queues × Report :=
  let services := board.services (board.turns step)
  match step with
  | .operate operation =>
    let (reply, after, actions) := board.perform operation
    (after, ⟨reply, board.lines.rising actions, [], [], services⟩)
  | .host action =>
    (board.withVoices (board.voices.host action),
      ⟨.done, [], action.drained board.voices, action.fed, services⟩)
  | .store address bytes =>
    ({ board with memory := board.memory.write address bytes }, ⟨.done, [], [], [], services⟩)
  | .tick =>
    let (_, after, actions) := board.tick
    (after, ⟨.done, board.lines.rising actions, [], [], services⟩)

def steps (board : Board Queues) : List Step → Board Queues × List Report
  | [] => (board, [])
  | step :: rest =>
    let (board, report) := board.step step
    let (board, reports) := board.steps rest
    (board, report :: reports)

/-- The steps that a run amounts to: the host acts, the sound system ticks, and so on until the line
was pulsed or the allowed ticks are used up. -/
def runSteps {η : Type} (line : Line) (hook : Hook η) :
    (limit : Nat) → Board Queues → η → List Step
  | 0, _, _ => []
  | limit + 1, board, host =>
    let (host', voices) := hook.turn host board.voices
    let (pulses, next, _) := (board.withVoices voices).tick
    (hook host board.voices).2.map .host ++
      .tick :: if line ∈ pulses then [] else runSteps line hook limit next host'

def phase (board : Board Queues) : Phase → Board Queues × List Report
  | .step step => let (board, report) := board.step step; (board, [report])
  | .run line limit hook host =>
    ((board.run line limit hook.turn host).board,
      (board.steps (runSteps line hook limit board host)).2)

def phases (board : Board Queues) : List Phase → Board Queues × List Report
  | [] => (board, [])
  | phase :: rest =>
    let (board, reports) := board.phase phase
    let (board, later) := board.phases rest
    (board, reports ++ later)

/-!
## Steps as turns
-/

theorem servePlayback_eq_session (board : Board Queues) :
    board.servePlayback = board.session (board.duty .playback) := by
  unfold servePlayback duty
  by_cases active : board.voices.playbackActive = true
  · rw [if_pos active, if_pos active, session_cons]
    exact Prod.ext rfl (List.append_nil _).symm
  · rw [if_neg active, if_neg active]
    rfl

theorem serveCapture_eq_session (board : Board Queues) :
    board.serveCapture = board.session (board.duty .capture) := by
  unfold serveCapture duty
  by_cases active : board.voices.captureActive = true
  · rw [if_pos active, if_pos active, session_cons]
    exact Prod.ext rfl (List.append_nil _).symm
  · rw [if_neg active, if_neg active]
    rfl

theorem tick_eq_session (board : Board Queues) :
    board.tick.2 = board.session (board.turns .tick) := by
  have taken : ∀ board : Board Queues, board.session [.takePulses] = (board.takePulses.2, []) :=
    fun board => rfl
  rw [turns, session_append, session_append, ← servePlayback_eq_session,
    ← serveCapture_eq_session, taken]
  exact Prod.ext rfl (List.append_nil _).symm

theorem step_eq_session (board : Board Queues) (step : Step) :
    (board.step step).1 = (board.session (board.turns step)).1 := by
  cases step with
  | tick => exact congrArg Prod.fst board.tick_eq_session
  | _ => rfl

theorem operated_of_mem_duty {board : Board Queues} {channel : Channel} {turn : Turn Queues}
    (member : turn ∈ board.duty channel) : ∃ operation, turn = .operate operation := by
  have either : ∀ (active : Bool) (operation : Operation),
      turn ∈ (if active then [.operate operation] else []) →
        ∃ operation, turn = .operate operation := by
    intro active operation listed
    cases active with
    | false => cases listed
    | true => exact ⟨operation, List.mem_singleton.mp listed⟩
  cases channel with
  | playback => exact either _ _ member
  | capture => exact either _ _ member

/-- The host does nothing in a tick. -/
theorem turns_tick_ne_host {board : Board Queues} {turn : Turn Queues}
    (member : turn ∈ board.turns .tick) (change : Queues → Queues) : turn ≠ .host change := by
  rintro rfl
  rcases List.mem_append.mp member with owed | taken
  · rcases List.mem_append.mp owed with played | captured
    · obtain ⟨operation, other⟩ := operated_of_mem_duty played
      cases other
    · obtain ⟨operation, other⟩ := operated_of_mem_duty captured
      cases other
  · cases List.mem_singleton.mp taken

theorem leavesVoices_turns (board : Board Queues) (step : Step) :
    ∀ turn ∈ board.turns step, turn.LeavesVoices := by
  intro turn member
  cases step with
  | operate operation =>
      obtain rfl := List.mem_singleton.mp member
      exact nofun
  | host action =>
      obtain rfl := List.mem_singleton.mp member
      cases action with
      | drain most => exact Turn.leavesVoices_drain most
      | feed bytes => exact Turn.leavesVoices_feed bytes
  | store address bytes =>
      obtain rfl := List.mem_singleton.mp member
      exact nofun
  | tick => exact fun change same => absurd same (turns_tick_ne_host member change)

theorem synchronized_step {board : Board Queues} (synchronized : board.device.Synchronized)
    (step : Step) : (board.step step).1.device.Synchronized := by
  rw [step_eq_session]
  exact synchronized_session synchronized (board.leavesVoices_turns step)

theorem synchronized_steps {board : Board Queues} (synchronized : board.device.Synchronized)
    (steps : List Step) : (board.steps steps).1.device.Synchronized := by
  induction steps generalizing board with
  | nil => exact synchronized
  | cons step rest ih => exact ih (synchronized_step synchronized step)

/-!
## Runs as steps
-/

theorem steps_cons (board : Board Queues) (step : Step) (rest : List Step) :
    board.steps (step :: rest) =
      (((board.step step).1.steps rest).1,
        (board.step step).2 :: ((board.step step).1.steps rest).2) := rfl

theorem steps_append (board : Board Queues) (first second : List Step) :
    board.steps (first ++ second) =
      (((board.steps first).1.steps second).1,
        (board.steps first).2 ++ ((board.steps first).1.steps second).2) := by
  induction first generalizing board with
  | nil => rfl
  | cons step rest ih => simp only [List.cons_append, steps_cons, ih]

theorem steps_host (board : Board Queues) (actions : List HostAction) :
    (board.steps (actions.map .host)).1 =
      board.withVoices (actions.foldl Queues.host board.voices) := by
  induction actions generalizing board with
  | nil => rfl
  | cons action rest ih => exact ih (board.withVoices (board.voices.host action))

theorem runFrom_board {η : Type} (line : Line) (hook : Hook η) (limit ticks : Nat)
    (board : Board Queues) (host : η) (log : List Action) :
    (runFrom line hook.turn limit ticks board host log).board =
      (board.steps (runSteps line hook limit board host)).1 := by
  induction limit generalizing ticks board host log with
  | zero => rfl
  | succ limit ih =>
      have acted : (board.steps ((hook host board.voices).2.map .host)).1 =
          board.withVoices (hook.turn host board.voices).2 := board.steps_host _
      rw [runFrom, runSteps, steps_append, acted]
      dsimp only
      split
      · rfl
      · exact ih ..

theorem run_board {η : Type} (board : Board Queues) (line : Line) (limit : Nat) (hook : Hook η)
    (host : η) :
    (board.run line limit hook.turn host).board =
      (board.steps (runSteps line hook limit board host)).1 :=
  runFrom_board ..

/-- The steps that a phase amounts to. -/
def phaseSteps (board : Board Queues) : Phase → List Step
  | .step step => [step]
  | .run line limit hook host => runSteps line hook limit board host

theorem phase_eq_steps (board : Board Queues) (phase : Phase) :
    board.phase phase = board.steps (board.phaseSteps phase) := by
  cases phase with
  | step step => rfl
  | run line limit hook host => exact Prod.ext (board.run_board line limit hook host) rfl

theorem phases_cons (board : Board Queues) (phase : Phase) (rest : List Phase) :
    board.phases (phase :: rest) =
      (((board.phase phase).1.phases rest).1,
        (board.phase phase).2 ++ ((board.phase phase).1.phases rest).2) := rfl

/-- Whatever happens to a machine happens step by step. -/
theorem exists_steps (board : Board Queues) (phases : List Phase) :
    ∃ steps, board.phases phases = board.steps steps := by
  induction phases generalizing board with
  | nil => exact ⟨[], rfl⟩
  | cons phase rest ih =>
      obtain ⟨later, same⟩ := ih (board.phase phase).1
      refine ⟨board.phaseSteps phase ++ later, ?_⟩
      rw [phases_cons, same, phase_eq_steps, steps_append]

end Board

end SoundCard
