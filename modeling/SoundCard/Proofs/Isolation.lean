import SoundCard.Proofs.Completion
import SoundCard.Proofs.Exchange
import SoundCard.Proofs.Machine

/-!
# What playback cannot reach

The two channels share one bank of words, one memory, one interrupt controller and one pair of
voices. Still, nothing that is done to the playback side of a board can be seen on its capture side. A
step on the playback side leaves the capture side as it is, and what any step makes of the capture
side depends on the capture side only, as long as the voices follow their control words. So two boards
that look alike from the capture side keep doing so, whatever is done to their playback sides.
-/

set_option autoImplicit false

namespace SoundCard

/-!
## One line
-/

/-- What the interrupt controller keeps of one line. -/
structure Wire where
  high : Bool
  edges : Nat
  deriving DecidableEq

namespace Wire

/-- Driving a wire high shows an edge only if it was low. -/
def driven (wire : Wire) (high : Bool) : Wire :=
  ⟨high, if high && !wire.high then wire.edges + 1 else wire.edges⟩

def pulsed (wire : Wire) : (pulses : Nat) → Wire
  | 0 => wire
  | pulses + 1 => ((wire.driven true).driven false).pulsed pulses

end Wire

namespace Recorder

def wire (recorder : Recorder) (line : Line) : Wire :=
  ⟨recorder.level line, recorder.count line⟩

theorem wire_drive (recorder : Recorder) (line other : Line) (level : Bool) :
    (recorder.drive line level).wire other =
      if other = line then (recorder.wire line).driven level else recorder.wire other := by
  have count : (recorder.drive line level).count other =
      if other = line then ((recorder.wire line).driven level).edges else recorder.count other := by
    rw [count_drive, rise]
    by_cases same : other = line
    · cases level <;> cases high : recorder.level line <;> simp [Wire.driven, wire, same, high]
    · have apart : line ≠ other := Ne.symm same
      cases level <;> cases high : recorder.level line <;> simp [same, apart]
  unfold wire
  rw [level_drive, count]
  split <;> rfl

theorem wire_pulse (recorder : Recorder) (line other : Line) :
    (recorder.pulse line).wire other =
      if other = line then (recorder.wire line).pulsed 1 else recorder.wire other := by
  by_cases same : other = line <;> simp [pulse, wire_drive, Wire.pulsed, same]

/-- Pulses on other lines leave a wire alone. -/
theorem wire_foldl_pulses (recorder : Recorder) (edges : List Line) (line : Line) :
    ((Action.pulses edges).foldl (fun lines drive => lines.drive drive.1 drive.2) recorder).wire
        line =
      (recorder.wire line).pulsed (edges.count line) := by
  induction edges generalizing recorder with
  | nil => rfl
  | cons edge rest ih =>
      refine (ih (recorder.pulse edge)).trans ?_
      rw [wire_pulse]
      by_cases same : line = edge
      · subst same
        rw [if_pos rfl, List.count_cons_self]
        rfl
      · rw [if_neg same, List.count_cons_of_ne (Ne.symm same)]

end Recorder

/-!
## The words of a channel
-/

/-- The position of a word that belongs to a channel. -/
def Channel.Owns (channel : Channel) (index : Nat) : Prop :=
  index ∈ channel.registers.map fun register => register.index.val

instance (channel : Channel) : DecidablePred channel.Owns :=
  fun index => inferInstanceAs (Decidable (index ∈ List.map _ _))

namespace Bank

theorem Agree.write {channel : Channel} {left right : Bank} (agree : Agree channel left right)
    (index : Nat) (value : UInt32) :
    Agree channel (left.write index value) (right.write index value) := by
  intro register own
  have same := agree register own
  unfold Bank.write
  cases Register.reached? index with
  | none => exact same
  | some reached => cases reached <;> simp only [get_set, same]

theorem agree_write_of_not_owns {channel : Channel} (bank : Bank) {index : Nat} (value : UInt32)
    (foreign : ¬channel.Owns index) : Agree channel (bank.write index value) bank := by
  intro register own
  refine get_write_of_ne bank value fun same => foreign ?_
  exact List.mem_map.mpr ⟨register, own, same.symm⟩

end Bank

/-!
## Sides of a board
-/

/-- What can be seen of a board from its capture side. -/
structure CaptureSide where
  control : UInt32
  address : UInt32
  remaining : UInt32
  active : Bool
  queued : List UInt8
  memory : Memory
  wire : Wire
  deriving DecidableEq

def Board.captureSide (board : Board Queues) : CaptureSide where
  control := board.words.get .captureControl
  address := board.words.get .captureAddress
  remaining := board.words.get .captureRemaining
  active := board.voices.captureActive
  queued := board.voices.capture.toList
  memory := board.memory
  wire := board.lines.wire .captureDone

/-- The operation is done to the playback side: a playback call, a write to a position that is not
one of the capture words, or an operation that changes nothing. -/
def Operation.onPlayback (operation : Operation) : Bool :=
  match operation.written? with
  | some (index, _) => !decide (Channel.capture.Owns index)
  | none =>
    match operation with
    | .playback _ | .read _ | .busRead _ | .save => true
    | _ => false

/-- The step is done to the playback side. All others may concern the capture side. -/
def Step.onPlayback : Step → Bool
  | .operate operation => operation.onPlayback
  | .host (.drain _) => true
  | _ => false

/-- The steps that are not done to the playback side. -/
def Step.shared (steps : List Step) : List Step :=
  steps.filter fun step => !step.onPlayback

namespace Operation

theorem called?_of_onPlayback {operation : Operation} (playback : operation.onPlayback = true) :
    operation.called? ≠ some .capture := by
  cases operation with
  | capture => cases playback
  | _ => exact nofun

/-- Operations on the playback side leave the words of capture alone. -/
theorem agree_words_of_onPlayback {operation : Operation} (playback : operation.onPlayback = true)
    (before : Bank) (carried : Channel → List UInt8) :
    Bank.Agree .capture (operation.words before carried) before := by
  have foreign : ∀ {index : Nat}, (!decide (Channel.capture.Owns index)) = true →
      ¬Channel.capture.Owns index := by
    intro index unowned
    simpa using unowned
  have same : Bank.Agree .capture before before := fun register _ => rfl
  cases operation with
  | write index value => exact before.agree_write_of_not_owns value (foreign playback)
  | busWrite offset value => exact before.agree_write_of_not_owns value (foreign playback)
  | playback free =>
      have apart : Channel.playback ≠ .capture := nofun
      exact Bank.agree_advance_of_ne apart before _
  | busRead | read | save => exact same
  | updateVoices | reset | load | capture => cases playback

/-- What an operation makes of the words of a channel depends on these words and on what the channel
moved. -/
theorem agree_words (operation : Operation) {channel : Channel} {left right : Bank}
    (agree : Bank.Agree channel left right) {carried carried' : Channel → List UInt8}
    (moved : carried channel = carried' channel) :
    Bank.Agree channel (operation.words left carried) (operation.words right carried') := by
  have called : ∀ served, Bank.Agree channel (left.advance served (carried served).length)
      (right.advance served (carried' served).length) := by
    intro served
    by_cases own : served = channel
    · subst own
      rw [moved]
      exact agree.advance _
    · intro register member
      rw [Bank.agree_advance_of_ne own left _ register member,
        Bank.agree_advance_of_ne own right _ register member]
      exact agree register member
  cases operation with
  | reset => exact fun register _ => rfl
  | write index value => exact agree.write index value
  | busWrite offset value => exact agree.write (Device.position offset) value
  | load snapshot =>
      simp only [words]
      cases restored? (.load snapshot) with
      | none => exact agree
      | some restored => exact fun register _ => rfl
  | playback free => exact called .playback
  | capture available => exact called .capture
  | busRead | read | updateVoices | save => exact agree

/-- On the line of a channel an operation raises an edge exactly if it is a call of the channel that
completes its transfer. -/
theorem count_edges_line (operation : Operation) (channel : Channel) (before after : Bank) :
    (operation.edges before after).count channel.line =
      if operation.called? = some channel ∧ before.Completes after channel then 1 else 0 := by
  have counted := (Turn.operate operation : Turn Queues).count_edges before after channel.line
  rw [Turn.announces_line] at counted
  rcases counted with ⟨announced, one⟩ | ⟨silent, zero⟩
  · exact one.trans (if_pos announced).symm
  · exact zero.trans (if_neg silent).symm

end Operation

namespace Board

/-!
## One board
-/

theorem captureSide_eq_iff {left right : Board Queues} :
    left.captureSide = right.captureSide ↔
      Bank.Agree .capture left.words right.words ∧
        left.voices.captureActive = right.voices.captureActive ∧
        left.voices.capture.toList = right.voices.capture.toList ∧
        left.memory = right.memory ∧
        left.lines.wire .captureDone = right.lines.wire .captureDone := by
  rw [Bank.agree_iff]
  simp only [captureSide, CaptureSide.mk.injEq, and_assoc]
  rfl

theorem wire_perform (board : Board Queues) (operation : Operation) (channel : Channel) :
    (board.perform operation).2.1.lines.wire channel.line =
      (board.lines.wire channel.line).pulsed
        (if operation.called? = some channel ∧
            board.words.Completes (board.perform operation).2.1.words channel
          then 1 else 0) := by
  rw [lines_perform_eq_foldl, driven_perform, Recorder.wire_foldl_pulses,
    operation.count_edges_line]
  rfl

/-- An operation on the playback side leaves the capture side as it is. -/
theorem captureSide_perform_of_onPlayback {board : Board Queues}
    (synchronized : board.device.Synchronized) {operation : Operation}
    (playback : operation.onPlayback = true) :
    (board.perform operation).2.1.captureSide = board.captureSide := by
  have uncalled := Operation.called?_of_onPlayback playback
  have words : Bank.Agree .capture (board.perform operation).2.1.words board.words := by
    unfold Board.words
    rw [words_perform]
    exact Operation.agree_words_of_onPlayback playback _ _
  rw [captureSide_eq_iff]
  refine ⟨words, ?_, ?_, ?_, ?_⟩
  · refine (synchronized_perform synchronized operation .capture).trans ?_
    exact words.enabled.trans (synchronized .capture).symm
  · exact congrArg Fifo.toList (board.fifo_perform uncalled)
  · rw [memory_perform, carried_perform board uncalled]
    rfl
  · refine (board.wire_perform operation .capture).trans ?_
    rw [if_neg fun announced => uncalled announced.1]
    rfl

/-- The playback half of a tick leaves the capture side as it is. -/
theorem captureSide_servePlayback {board : Board Queues}
    (synchronized : board.device.Synchronized) :
    board.servePlayback.1.captureSide = board.captureSide ∧
      board.servePlayback.1.device.Synchronized := by
  unfold servePlayback
  split
  · have served : board.playback board.voices.free =
        (board.perform (.playback board.voices.free)).2 := rfl
    rw [served]
    exact ⟨captureSide_perform_of_onPlayback synchronized rfl, synchronized_perform synchronized _⟩
  · exact ⟨rfl, synchronized⟩

theorem captureSide_step_of_onPlayback {board : Board Queues}
    (synchronized : board.device.Synchronized) {step : Step} (playback : step.onPlayback = true) :
    (board.step step).1.captureSide = board.captureSide := by
  cases step with
  | operate operation => exact captureSide_perform_of_onPlayback synchronized playback
  | host action =>
      cases action with
      | drain most => rfl
      | feed bytes => cases playback
  | store | tick => cases playback

/-!
## Two boards
-/

theorem available_of_captureSide_eq {left right : Board Queues}
    (alike : left.captureSide = right.captureSide) :
    left.voices.available = right.voices.available := by
  obtain ⟨_, active, queued, _, _⟩ := captureSide_eq_iff.mp alike
  simp only [Queues.available, active, Fifo.size_eq_length, queued]

/-- The bytes that a capture call gets depend on the capture side only. -/
theorem carried_capture_of_captureSide_eq {left right : Board Queues}
    (alike : left.captureSide = right.captureSide) (operation : Operation) :
    Action.carried .capture (left.perform operation).2.2 =
      Action.carried .capture (right.perform operation).2.2 := by
  by_cases called : operation.called? = some .capture
  · cases operation with
    | capture available =>
        obtain ⟨words, _, queued, _, _⟩ := captureSide_eq_iff.mp alike
        have remaining : left.words.get .captureRemaining = right.words.get .captureRemaining :=
          (Bank.agree_iff.mp words).2.2
        have ready : left.voices.ready .capture = right.voices.ready .capture :=
          available_of_captureSide_eq alike
        rw [carried_capture_call, carried_capture_call, queued, ready, remaining]
    | _ => cases called
  · rw [carried_perform left called, carried_perform right called]

section

variable {left right : Board Queues} (leftSynchronized : left.device.Synchronized)
  (rightSynchronized : right.device.Synchronized) (alike : left.captureSide = right.captureSide)

include leftSynchronized rightSynchronized alike

/-- What an operation makes of the capture side depends on the capture side only. -/
theorem captureSide_perform (operation : Operation) :
    (left.perform operation).2.1.captureSide = (right.perform operation).2.1.captureSide := by
  have carried := carried_capture_of_captureSide_eq alike operation
  obtain ⟨words, _, queued, memory, wire⟩ := captureSide_eq_iff.mp alike
  have after : Bank.Agree .capture (left.perform operation).2.1.words
      (right.perform operation).2.1.words := by
    unfold Board.words
    rw [words_perform, words_perform]
    exact operation.agree_words words carried
  rw [captureSide_eq_iff]
  refine ⟨after, ?_, ?_, ?_, ?_⟩
  · refine (synchronized_perform leftSynchronized operation .capture).trans ?_
    exact after.enabled.trans (synchronized_perform rightSynchronized operation .capture).symm
  · have taken := (left.capture_perform operation).trans
      (queued.trans (right.capture_perform operation).symm)
    rw [carried] at taken
    exact List.append_cancel_left taken
  · rw [memory_perform, memory_perform, memory, carried]
    exact congrArg (right.memory.write · _) (Bank.agree_iff.mp words).2.1
  · refine (left.wire_perform operation .capture).trans ?_
    refine Eq.trans ?_ (right.wire_perform operation .capture).symm
    simp only [words.completes after]
    exact congrArg (Wire.pulsed · _) wire

theorem captureSide_serveCapture :
    left.serveCapture.1.captureSide = right.serveCapture.1.captureSide := by
  obtain ⟨_, active, _, _, _⟩ := captureSide_eq_iff.mp alike
  unfold serveCapture
  rw [active, available_of_captureSide_eq alike]
  split
  · exact captureSide_perform leftSynchronized rightSynchronized alike
      (.capture right.voices.available)
  · exact alike

theorem captureSide_tick : left.tick.2.1.captureSide = right.tick.2.1.captureSide := by
  obtain ⟨leftKept, leftNext⟩ := captureSide_servePlayback leftSynchronized
  obtain ⟨rightKept, rightNext⟩ := captureSide_servePlayback rightSynchronized
  exact captureSide_serveCapture leftNext rightNext (leftKept.trans (alike.trans rightKept.symm))

theorem captureSide_step (step : Step) :
    (left.step step).1.captureSide = (right.step step).1.captureSide := by
  obtain ⟨words, active, queued, memory, wire⟩ := captureSide_eq_iff.mp alike
  cases step with
  | operate operation =>
      exact captureSide_perform leftSynchronized rightSynchronized alike operation
  | tick => exact captureSide_tick leftSynchronized rightSynchronized alike
  | store address bytes =>
      have stored := congrArg (Memory.write · address bytes) memory
      exact captureSide_eq_iff.mpr ⟨words, active, queued, stored, wire⟩
  | host action =>
      cases action with
      | drain most => exact captureSide_eq_iff.mpr ⟨words, active, queued, memory, wire⟩
      | feed bytes =>
          have fed : (left.voices.feed bytes).capture.toList =
              (right.voices.feed bytes).capture.toList := by
            simp [Queues.feed, queued]
          exact captureSide_eq_iff.mpr ⟨words, active, fed, memory, wire⟩

end

/-!
## Runs
-/

/-- Of a run, the capture side sees the shared steps only. -/
theorem captureSide_steps_shared {left right : Board Queues}
    (leftSynchronized : left.device.Synchronized) (rightSynchronized : right.device.Synchronized)
    (alike : left.captureSide = right.captureSide) (steps : List Step) :
    (left.steps steps).1.captureSide = (right.steps (Step.shared steps)).1.captureSide := by
  induction steps generalizing left right with
  | nil => exact alike
  | cons step rest ih =>
      have next := synchronized_step leftSynchronized step
      by_cases playback : step.onPlayback = true
      · have kept := captureSide_step_of_onPlayback leftSynchronized playback
        have skipped : Step.shared (step :: rest) = Step.shared rest := by
          simp [Step.shared, playback]
        rw [skipped]
        exact ih next rightSynchronized (kept.trans alike)
      · have taken : Step.shared (step :: rest) = step :: Step.shared rest := by
          simp [Step.shared, playback]
        rw [taken]
        exact ih next (synchronized_step rightSynchronized step)
          (captureSide_step leftSynchronized rightSynchronized alike step)

/-- Two boards that look alike from the capture side do so whenever they have taken as many of the
same shared steps, whatever was done to their playback sides. -/
theorem capture_isolated {left right : Board Queues} (leftSynchronized : left.device.Synchronized)
    (rightSynchronized : right.device.Synchronized) (alike : left.captureSide = right.captureSide)
    {leftSteps rightSteps : List Step} (same : Step.shared leftSteps = Step.shared rightSteps) :
    ∀ leftPast rightPast, leftPast <+: leftSteps → rightPast <+: rightSteps →
      (Step.shared leftPast).length = (Step.shared rightPast).length →
        (left.steps leftPast).1.captureSide = (right.steps rightPast).1.captureSide := by
  intro leftPast rightPast leftFirst rightFirst lengths
  have left' : Step.shared leftPast <+: Step.shared rightSteps := same ▸ leftFirst.filter _
  have right' : Step.shared rightPast <+: Step.shared rightSteps := rightFirst.filter _
  have pasts : Step.shared leftPast = Step.shared rightPast :=
    (List.prefix_of_prefix_length_le left' right' (Nat.le_of_eq lengths)).eq_of_length lengths
  refine (captureSide_steps_shared leftSynchronized rightSynchronized alike leftPast).trans ?_
  rw [pasts]
  exact (captureSide_steps_shared rightSynchronized rightSynchronized rfl rightPast).symm

/-- Five bytes are fed in two pieces, and four of them are captured, while one of two boards plays. -/
theorem capture_isolated_playing :
    let left := (powerOn (Queues.closed 1) (.zeros 0 8) (.empty false) false).1
    let right := (powerOn (Queues.closed 8) (.zeros 0 8) (.empty true) true).1
    let leftSteps : List Step := [.operate (.write 9 2), .operate (.write 6 3),
      .operate (.write 10 4), .operate (.write 8 1), .operate (.write 4 1), .host (.feed [1, 2, 3]),
      .tick, .host (.drain 1), .operate (.playback 1), .host (.feed [4, 5]), .tick]
    let rightSteps : List Step := [.operate (.write 9 2), .operate (.write 10 4),
      .operate (.write 8 1), .operate (.write 0 1), .host (.feed [1, 2, 3]), .tick,
      .operate (.read 10), .host (.feed [4, 5]), .tick]
    left.device.Synchronized ∧ right.device.Synchronized ∧ left.captureSide = right.captureSide ∧
      Step.shared leftSteps = Step.shared rightSteps ∧
      (left.steps (leftSteps.take 8)).1.captureSide =
        (right.steps (rightSteps.take 6)).1.captureSide ∧
      (left.steps leftSteps).1.captureSide = (right.steps rightSteps).1.captureSide ∧
      (left.steps leftSteps).1.captureSide.wire = ⟨false, 1⟩ ∧
      (left.steps leftSteps).1.memory.read 2 4 = [1, 2, 3, 4] := by
  intro left right leftSteps rightSteps
  have synchronized : left.device.Synchronized := synchronized_powerOn 1 _ _ _
  have synchronized' : right.device.Synchronized := synchronized_powerOn 8 _ _ _
  have alike : left.captureSide = right.captureSide := by decide +kernel
  have same : Step.shared leftSteps = Step.shared rightSteps := by decide +kernel
  have isolated := capture_isolated synchronized synchronized' alike same
  exact ⟨synchronized, synchronized', alike, same,
    isolated _ _ (List.take_prefix ..) (List.take_prefix ..) (by decide +kernel),
    isolated _ _ List.prefix_rfl List.prefix_rfl (by decide +kernel),
    by decide +kernel, by decide +kernel⟩

end Board

end SoundCard
