import Mathlib.Data.List.DropRight
import SoundCard.Proofs.Machine
import SoundCard.Proofs.Serving

/-!
# Edges that wait

The interrupt controller keeps the edges that nobody took yet, and a tick takes all of them, whoever
raised them. So a tick gives the edges of its own calls alone only if no line rose since the tick
before it. What a codec command raised, or a call of a channel between two ticks, is given by the next
tick, and a run ends at its first tick if the line that it awaits had risen already.
-/

set_option autoImplicit false

namespace SoundCard

/-- The edge of a channel that ran out of bytes from the first words to the second. -/
def Bank.ended (before after : Bank) (channel : Channel) : List Line :=
  if before.Completes after channel then [channel.line] else []

theorem Recorder.rising_of_pulses {recorder : Recorder} (low : recorder.AllLow)
    {actions : List Action} {edges : List Line}
    (pulsed : Action.driven actions = Action.pulses edges) : recorder.rising actions = edges := by
  have listening : { recorder with pending := [] : Recorder }.AllLow := low
  unfold rising
  rw [pulsed]
  exact congrArg Recorder.pending (foldl_pulses listening edges)

namespace Board

/-!
## Ticks
-/

/-- The edges that the calls of a tick raise, that of the playback channel first. -/
def rung (board : Board Queues) : List Line :=
  let played := board.servePlayback.1
  let filled := played.serveCapture.1
  board.words.ended played.words .playback ++ played.words.ended filled.words .capture

theorem duty_eq (board : Board Queues) (channel : Channel) :
    board.duty channel = if board.voices.active channel
      then [.operate (.call channel (board.voices.ready channel))] else [] := by
  cases channel <;> rfl

/-- The call that a tick owes a channel raises the line of the channel if it completes the transfer,
and no other line. -/
theorem duty_spec {board : Board Queues} (low : board.lines.AllLow) (channel : Channel) :
    let served := board.session (board.duty channel)
    served.1.lines = board.lines.note (board.words.ended served.1.words channel) ∧
      Action.driven served.2 = Action.pulses (board.words.ended served.1.words channel) := by
  rw [duty_eq]
  by_cases active : board.voices.active channel = true
  · rw [if_pos active]
    have lines := lines_call low channel (board.voices.ready channel)
    have driven := board.driven_perform (.call channel (board.voices.ready channel))
    rw [Operation.edges_call] at driven
    refine ⟨lines, ?_⟩
    rw [session_cons, Action.driven_append]
    exact (List.append_nil _).trans driven
  · rw [if_neg active]
    have still : board.words.ended board.words channel = [] :=
      if_neg (board.words.not_completes_self channel)
    dsimp only [session]
    rw [still]
    exact ⟨(Recorder.note_nil _).symm, rfl⟩

theorem tick_spec {board : Board Queues} (low : board.lines.AllLow) :
    board.tick.1 = board.lines.pending ++ board.rung ∧
      board.lines.rising board.tick.2.2 = board.rung := by
  obtain ⟨playedLines, playedDriven⟩ := duty_spec low .playback
  rw [← servePlayback_eq_session] at playedLines playedDriven
  have still : board.servePlayback.1.lines.AllLow := by
    rw [playedLines]
    exact low.note _
  obtain ⟨filledLines, filledDriven⟩ := duty_spec still .capture
  rw [← serveCapture_eq_session] at filledLines filledDriven
  have given : board.tick.1 = board.servePlayback.1.serveCapture.1.lines.pending := rfl
  have actions : board.tick.2.2 = board.servePlayback.2 ++ board.servePlayback.1.serveCapture.2 :=
    rfl
  constructor
  · rw [given, filledLines, playedLines]
    exact List.append_assoc ..
  · refine Recorder.rising_of_pulses low ?_
    rw [actions, Action.driven_append, playedDriven, filledDriven]
    exact List.flatMap_append.symm

/-!
## Steps
-/

/-- The steps that were taken, each with what could be seen of it. -/
def account (board : Board Queues) (steps : List Step) : List (Step × Report) :=
  steps.zip (board.steps steps).2

/-- The lines that rose since the last tick, in order. -/
def waiting (board : Board Queues) (steps : List Step) : List Line :=
  ((board.account steps).rtakeWhile fun taken => taken.1 ≠ .tick).flatMap fun taken => taken.2.edges

theorem account_nil (board : Board Queues) : board.account [] = [] := rfl

theorem account_cons (board : Board Queues) (step : Step) (rest : List Step) :
    board.account (step :: rest) =
      (step, (board.step step).2) :: (board.step step).1.account rest := rfl

theorem account_append (board : Board Queues) (first second : List Step) :
    board.account (first ++ second) =
      board.account first ++ (board.steps first).1.account second := by
  induction first generalizing board with
  | nil => rfl
  | cons step rest ih => simp only [List.cons_append, account_cons, ih, steps_cons]

theorem mem_of_mem_account {board : Board Queues} {steps : List Step} {taken : Step × Report}
    (member : taken ∈ board.account steps) : taken.1 ∈ steps :=
  (List.of_mem_zip member).1

theorem allLow_steps {board : Board Queues} (low : board.lines.AllLow) (steps : List Step) :
    (board.steps steps).1.lines.AllLow := by
  induction steps generalizing board with
  | nil => exact low
  | cons step rest ih =>
      have next : (board.step step).1.lines.AllLow := by
        rw [step_eq_session]
        exact allLow_session low _
      exact ih next

/-- Whatever happens between two ticks, its edges have to wait behind the others. -/
theorem pending_step {board : Board Queues} (low : board.lines.AllLow) {step : Step}
    (between : step ≠ .tick) :
    (board.step step).1.lines.pending = board.lines.pending ++ (board.step step).2.edges := by
  cases step with
  | operate operation =>
      have lines := board.lines_perform low operation
      have edges := Recorder.rising_of_pulses low (board.driven_perform operation)
      have reported : (board.step (.operate operation)).2.edges =
          board.lines.rising (board.perform operation).2.2 := rfl
      rw [reported, edges]
      exact congrArg Recorder.pending lines
  | tick => exact absurd rfl between
  | _ => exact (List.append_nil _).symm

/-- What waits after some steps is what rose since the last tick among them. -/
theorem pending_steps {board : Board Queues} (low : board.lines.AllLow)
    (taken : board.lines.pending = []) (steps : List Step) :
    (board.steps steps).1.lines.pending = board.waiting steps := by
  -- On the last step, which either takes what waits or adds to it.
  induction steps using List.reverseRecOn with
  | nil => exact taken
  | append_singleton past step ih =>
      have here := allLow_steps low past
      unfold waiting
      rw [steps_append, account_append, account_cons, account_nil, List.rtakeWhile_concat]
      by_cases tick : step = .tick
      · subst tick
        rfl
      · rw [if_pos (decide_eq_true tick), List.flatMap_append, List.flatMap_singleton]
        exact (pending_step here tick).trans (congrArg (· ++ _) ih)

/-!
## Runs
-/

/-- A run ends with the interrupt if the awaited line rises in one of its ticks, or if it had risen
before and there is a tick to notice. -/
theorem outcome_runFrom {η : Type} (line : Line) (hook : Hook η) (limit ticks : Nat)
    {board : Board Queues} (low : board.lines.AllLow) (host : η) (log : List Action) :
    (runFrom line hook.turn limit ticks board host log).outcome = .interrupt ↔
      (0 < limit ∧ line ∈ board.lines.pending) ∨
        ∃ taken ∈ board.account (runSteps line hook limit board host),
          taken.1 = .tick ∧ line ∈ taken.2.edges := by
  induction limit generalizing ticks board host log with
  | zero =>
      refine iff_of_false nofun ?_
      rintro (⟨positive, _⟩ | ⟨taken, member, _⟩)
      · exact absurd positive (Nat.lt_irrefl 0)
      · cases member
  | succ limit ih =>
      let acted := board.withVoices (hook.turn host board.voices).2
      have hosted : (board.steps ((hook host board.voices).2.map .host)).1 = acted :=
        board.steps_host _
      have unticked : ∀ taken ∈ board.account ((hook host board.voices).2.map .host),
          taken.1 ≠ .tick := by
        intro taken member
        obtain ⟨action, _, same⟩ := List.mem_map.mp (mem_of_mem_account member)
        rw [← same]
        exact nofun
      have quiet : acted.lines.AllLow := low
      obtain ⟨pulses, rising⟩ := tick_spec quiet
      have edges : (acted.step .tick).2.edges = acted.rung := rising
      -- Of the steps before the next tick, none is a tick.
      have split : ∀ rest : List Step,
          (∃ taken ∈ board.account ((hook host board.voices).2.map .host ++ .tick :: rest),
            taken.1 = .tick ∧ line ∈ taken.2.edges) ↔
          line ∈ acted.rung ∨ ∃ taken ∈ acted.tick.2.1.account rest,
            taken.1 = .tick ∧ line ∈ taken.2.edges := by
        intro rest
        rw [account_append, hosted, account_cons]
        constructor
        · rintro ⟨taken, member, tick, rose⟩
          rcases List.mem_append.mp member with before | after
          · exact absurd tick (unticked taken before)
          · rcases List.mem_cons.mp after with rfl | later
            · exact .inl (edges ▸ rose)
            · exact .inr ⟨taken, later, tick, rose⟩
        · rintro (rose | ⟨taken, later, tick, rose⟩)
          · exact ⟨_, List.mem_append_right _ List.mem_cons_self, rfl, edges ▸ rose⟩
          · exact ⟨taken, List.mem_append_right _ (List.mem_cons_of_mem _ later), tick, rose⟩
      have noticed : line ∈ acted.tick.1 ↔ line ∈ board.lines.pending ∨ line ∈ acted.rung := by
        rw [pulses]
        exact List.mem_append
      have positive : 0 < limit + 1 := Nat.succ_pos limit
      rw [runFrom, runSteps]
      dsimp only
      split
      · next pulsed =>
        refine iff_of_true rfl ?_
        rcases noticed.mp pulsed with waited | rose
        · exact .inl ⟨positive, waited⟩
        · exact .inr ((split []).mpr (.inl rose))
      · next unpulsed =>
        have unnoticed := mt noticed.mpr unpulsed
        have still : acted.tick.2.1.lines.AllLow := allLow_steps quiet [.tick]
        have emptied : acted.tick.2.1.lines.pending = [] := rfl
        refine (ih _ still _ _).trans ?_
        rw [split, emptied]
        constructor
        · rintro (⟨_, waited⟩ | later)
          · cases waited
          · exact .inr (.inr later)
        · rintro (⟨_, waited⟩ | rose | later)
          · exact absurd (.inl waited) unnoticed
          · exact absurd (.inr rose) unnoticed
          · exact .inr later

/-- From power on, whatever happened to a machine: the lines that rise during a tick are those of the
channels that its calls ran out of bytes, but what the tick gives begins with the lines that rose since
the tick before. A run ends with the interrupt exactly if the awaited line rises in one of its ticks,
or waits when it makes the first one. -/
theorem tick_pulses (capacity : Nat) (memory : Memory) (journal : Journal Event) (watched : Bool)
    (steps : List Step) :
    let start := (powerOn (Queues.closed capacity) memory journal watched).1
    let board := (start.steps steps).1
    board.lines.rising board.tick.2.2 = board.rung ∧
      board.tick.1 = start.waiting steps ++ board.rung ∧
      (board.tick.1 = board.rung ↔ start.waiting steps = []) ∧
      ∀ {η : Type} (line : Line) (limit : Nat) (hook : Hook η) (host : η),
        (board.run line limit hook.turn host).outcome = .interrupt ↔
          (0 < limit ∧ line ∈ start.waiting steps) ∨
            ∃ taken ∈ board.account (runSteps line hook limit board host),
              taken.1 = .tick ∧ line ∈ taken.2.edges := by
  intro start board
  have low := allLow_powerOn (Queues.closed capacity) memory journal watched
  have quiet := lines_powerOn (Queues.closed capacity) memory journal watched
  have waits : board.lines.pending = start.waiting steps :=
    pending_steps low (congrArg Recorder.pending quiet) steps
  have still := allLow_steps low steps
  obtain ⟨pulses, rising⟩ := tick_spec still
  rw [waits] at pulses
  refine ⟨rising, pulses, ?_, fun line limit hook host => ?_⟩
  · rw [pulses]
    exact List.append_left_eq_self
  · rw [← waits]
    exact outcome_runFrom line hook limit 0 still host []

/-- A codec command before a tick: the tick gives a line that did not rise during it, and a run that
awaits this line ends with the interrupt. -/
theorem tick_pulses_stale :
    let start := (powerOn (Queues.closed 8) (.zeros 0 16) (.empty false) false).1
    let board := (start.steps [.operate (.busWrite 0 3)]).1
    let hook : Hook Unit := fun host _ => (host, [])
    board.lines.rising board.tick.2.2 = [] ∧ board.tick.1 = [.codecRequest] ∧
      (board.account (runSteps .codecRequest hook 3 board ())).flatMap (fun taken => taken.2.edges) =
        [] ∧
      (board.run .codecRequest 3 hook.turn ()).outcome = .interrupt := by
  decide +kernel

end Board

end SoundCard
