import SoundCard.Board

/-!
# What actions tell

An operation of the card says what it did as a list of actions. Three readings of such a list carry
the theory of the card: the levels that it drives the interrupt lines to, the bytes that it moves over
a channel, and the events that a debugger gets to see. The recorder of a board depends on the first
reading alone, and while its lines are low a list of pulses adds one edge for each of them. What a
recording journal keeps depends on the last one alone.
-/

set_option autoImplicit false

namespace SoundCard

namespace Action

def driven? : Action → Option (Line × Bool)
  | .drove line level => some (line, level)
  | _ => none

def driven (actions : List Action) : List (Line × Bool) :=
  actions.filterMap driven?

/-- The levels of one pulse on each of the lines, one line after the other. -/
def pulses (lines : List Line) : List (Line × Bool) :=
  lines.flatMap fun line => [(line, true), (line, false)]

/-- The bytes that the backend took or gave over a channel because of the action. -/
def moved : Channel → Action → List UInt8
  | .playback => accepted
  | .capture => acquired

/-- The bytes that went over a channel, in order. -/
def carried (channel : Channel) (actions : List Action) : List UInt8 :=
  actions.flatMap (moved channel)

@[simp] theorem driven_nil : driven [] = [] := rfl

@[simp] theorem driven_cons (action : Action) (rest : List Action) :
    driven (action :: rest) = action.driven?.toList ++ driven rest := by
  cases heard : action.driven? <;> simp [driven, heard]

@[simp] theorem driven_append (first second : List Action) :
    driven (first ++ second) = driven first ++ driven second :=
  List.filterMap_append

@[simp] theorem driven_notices (notices : List Notice) : driven (notices.map .notice) = [] := by
  induction notices with
  | nil => rfl
  | cons remark rest ih => rw [List.map_cons, driven_cons, ih]; rfl

@[simp] theorem driven_pulse (line : Line) : driven (pulse line) = pulses [line] := rfl

@[simp] theorem carried_nil (channel : Channel) : carried channel [] = [] := rfl

@[simp] theorem carried_cons (channel : Channel) (action : Action) (rest : List Action) :
    carried channel (action :: rest) = action.moved channel ++ carried channel rest :=
  List.flatMap_cons

@[simp] theorem carried_append (channel : Channel) (first second : List Action) :
    carried channel (first ++ second) = carried channel first ++ carried channel second :=
  List.flatMap_append

@[simp] theorem carried_notices (channel : Channel) (notices : List Notice) :
    carried channel (notices.map .notice) = [] := by
  induction notices with
  | nil => rfl
  | cons remark rest ih => rw [List.map_cons, carried_cons, ih]; cases channel <;> rfl

@[simp] theorem carried_pulse (channel : Channel) (line : Line) :
    carried channel (pulse line) = [] := by
  cases channel <;> rfl

def events (actions : List Action) : List Event :=
  actions.filterMap event?

@[simp] theorem events_nil : events [] = [] := rfl

@[simp] theorem events_cons (action : Action) (rest : List Action) :
    events (action :: rest) = action.event?.toList ++ events rest := by
  cases seen : action.event? <;> simp [events, seen]

@[simp] theorem events_append (first second : List Action) :
    events (first ++ second) = events first ++ events second :=
  List.filterMap_append

@[simp] theorem events_notices (notices : List Notice) : events (notices.map .notice) = [] := by
  induction notices with
  | nil => rfl
  | cons remark rest ih => exact ih

/-- The actions neither move a byte nor drive a line. -/
def Silent (actions : List Action) : Prop :=
  (∀ channel, carried channel actions = []) ∧ driven actions = []

theorem silent_notices (notices : List Notice) : Silent (notices.map .notice) :=
  ⟨fun channel => carried_notices channel notices, driven_notices notices⟩

theorem Silent.append {first second : List Action} (before : Silent first) (after : Silent second) :
    Silent (first ++ second) := by
  constructor
  · intro channel
    rw [carried_append, before.1, after.1, List.append_nil]
  · rw [driven_append, before.2, after.2, List.append_nil]

end Action

namespace Recorder

def AllLow (recorder : Recorder) : Prop :=
  ∀ line, recorder.level line = false

/-- The recorder after rising edges on the given lines, with every line back where it was. -/
def note (recorder : Recorder) (edges : List Line) : Recorder where
  signals := recorder.signals
  counts := edges.foldl (fun counts line => counts.set line (counts.get line + 1)) recorder.counts
  pending := recorder.pending ++ edges
  taken := recorder.taken

def total (recorder : Recorder) : Nat :=
  recorder.count .codecRequest + recorder.count .codecReply +
    recorder.count .playbackDone + recorder.count .captureDone

/-- The edge that a drive shows: that of its line, if it is driven high while it is low. -/
def rise (recorder : Recorder) (line : Line) (level : Bool) : List Line :=
  if level && !recorder.level line then [line] else []

theorem takeRise_drive (recorder : Recorder) (line : Line) (level : Bool) :
    ((recorder.signals.get line).drive level).takeRise.1 = (level && !recorder.level line) := by
  simp [Signal.takeRise, Signal.drive, recorder.taken line, Recorder.level]

theorem signals_drive (recorder : Recorder) (line : Line) (level : Bool) :
    (recorder.drive line level).signals =
      recorder.signals.set line ((recorder.signals.get line).drive level).takeRise.2 := by
  unfold drive
  dsimp only
  split <;> rfl

theorem pending_drive (recorder : Recorder) (line : Line) (level : Bool) :
    (recorder.drive line level).pending = recorder.pending ++ recorder.rise line level := by
  unfold drive rise
  by_cases rose : (level && !recorder.level line) = true <;> simp [takeRise_drive, rose]

theorem count_drive (recorder : Recorder) (line other : Line) (level : Bool) :
    (recorder.drive line level).count other =
      recorder.count other + (recorder.rise line level).count other := by
  unfold drive rise
  by_cases rose : (level && !recorder.level line) = true
  · by_cases same : other = line
    · subst same
      simp [takeRise_drive, rose, Recorder.count]
    · simp [takeRise_drive, rose, Recorder.count, PerLine.get_set_of_ne _ _ same, Ne.symm same]
  · simp [takeRise_drive, rose, Recorder.count]

theorem allLow_quiet : quiet.AllLow := by
  intro line
  rw [level, quiet, PerLine.get_always]
  rfl

theorem AllLow.signal {recorder : Recorder} (low : recorder.AllLow) (line : Line) :
    recorder.signals.get line = .low := by
  have level : (recorder.signals.get line).level = false := low line
  have risen := recorder.taken line
  cases signal : recorder.signals.get line with
  | mk high rose =>
      rw [signal] at level risen
      cases level
      cases risen
      rfl

@[simp] theorem note_nil (recorder : Recorder) : recorder.note [] = recorder := by
  simp [note]

theorem note_append (recorder : Recorder) (first second : List Line) :
    recorder.note (first ++ second) = (recorder.note first).note second := by
  simp [note, List.foldl_append]

theorem AllLow.note {recorder : Recorder} (low : recorder.AllLow) (edges : List Line) :
    (recorder.note edges).AllLow := low

theorem count_note (recorder : Recorder) (edges : List Line) (line : Line) :
    (recorder.note edges).count line = recorder.count line + edges.count line := by
  induction edges generalizing recorder with
  | nil => simp
  | cons edge rest ih =>
      rw [← List.singleton_append, note_append, ih, List.count_append, ← Nat.add_assoc]
      congr 1
      by_cases same : line = edge
      · subst same
        simp [count, note]
      · simp [count, note, PerLine.get_set_of_ne _ _ same, Ne.symm same]

/-- A pulse on a low line is one rising edge and leaves the line low. -/
theorem pulse_eq_note {recorder : Recorder} (low : recorder.AllLow) (line : Line) :
    recorder.pulse line = recorder.note [line] := by
  have wires : (recorder.signals.set line (Signal.mk true false)).set line .low = recorder.signals := by
    apply PerLine.ext_get
    intro other
    by_cases same : other = line
    · rw [same, PerLine.get_set_self, low.signal line]
    · rw [PerLine.get_set_of_ne _ _ same, PerLine.get_set_of_ne _ _ same]
  unfold pulse drive
  simp only [low.signal line, Signal.drive, Signal.low, Signal.takeRise, Bool.not_false, Bool.and_self,
    Bool.or_true, Bool.or_self, if_true, PerLine.get_set_self, Bool.not_true, Bool.false_eq_true,
    if_false]
  simpa [note, Signal.low] using wires

theorem foldl_pulses {recorder : Recorder} (low : recorder.AllLow) (edges : List Line) :
    (Action.pulses edges).foldl (fun lines drive => lines.drive drive.1 drive.2) recorder =
      recorder.note edges := by
  induction edges generalizing recorder with
  | nil => exact (note_nil recorder).symm
  | cons edge rest ih =>
      have first : (recorder.drive edge true).drive edge false = recorder.note [edge] :=
        pulse_eq_note low edge
      rw [← List.singleton_append, note_append, ← ih (low.note [edge]), ← first]
      rfl

end Recorder

namespace Board

variable {σ : Type}

/-- What no single action changes, no list of actions changes. -/
theorem carryOut_keeps {α : Type} {view : Board σ → α}
    (keeps : ∀ (board : Board σ) action, view (board.observe action) = view board) (board : Board σ)
    (actions : List Action) : view (board.carryOut actions) = view board := by
  induction actions generalizing board with
  | nil => rfl
  | cons action rest ih => exact (ih (board.observe action)).trans (keeps board action)

@[simp] theorem device_carryOut (board : Board σ) (actions : List Action) :
    (board.carryOut actions).device = board.device := by
  apply carryOut_keeps
  intro board action
  cases action <;> simp only [observe] <;> split <;> rfl

@[simp] theorem memory_carryOut (board : Board σ) (actions : List Action) :
    (board.carryOut actions).memory = board.memory := by
  apply carryOut_keeps
  intro board action
  cases action <;> simp only [observe] <;> split <;> rfl

@[simp] theorem watched_carryOut (board : Board σ) (actions : List Action) :
    (board.carryOut actions).watched = board.watched := by
  apply carryOut_keeps
  intro board action
  cases action <;> simp only [observe] <;> split <;> rfl

theorem lines_carryOut (board : Board σ) (actions : List Action) :
    (board.carryOut actions).lines =
      (Action.driven actions).foldl (fun lines drive => lines.drive drive.1 drive.2) board.lines := by
  induction actions generalizing board with
  | nil => rfl
  | cons action rest ih =>
      refine (ih (board.observe action)).trans ?_
      rw [Action.driven_cons, List.foldl_append]
      congr 1
      cases action <;> simp only [observe] <;> first | rfl | (split <;> rfl)

/-- The debugger hears of every event. -/
def Recording (board : Board σ) : Prop :=
  board.watched = true ∧ board.journal.recording = true

instance (board : Board σ) : Decidable board.Recording :=
  inferInstanceAs (Decidable (_ ∧ _))

private theorem events_observe (board : Board σ) (action : Action) :
    ((board.observe action).Recording ↔ board.Recording) ∧
      (board.observe action).journal.events =
        if board.Recording then action.event?.toList.foldl History.push board.journal.events
        else board.journal.events := by
  cases action with
  | event seen =>
      unfold observe Journal.event Recording
      by_cases watched : board.watched = true <;>
        by_cases recording : board.journal.recording = true <;>
          simp [watched, recording, Action.event?]
  | error text =>
      unfold observe Journal.error Recording
      by_cases watched : board.watched = true <;> simp [watched, Action.event?]
  | _ => exact ⟨Iff.rfl, (ite_self _).symm⟩

theorem recording_carryOut (board : Board σ) (actions : List Action) :
    (board.carryOut actions).Recording ↔ board.Recording := by
  induction actions generalizing board with
  | nil => exact Iff.rfl
  | cons action rest ih => exact (ih (board.observe action)).trans (board.events_observe action).1

/-- A debugger that records hears of all the events in order, and no other hears of any. -/
theorem events_carryOut (board : Board σ) (actions : List Action) :
    (board.carryOut actions).journal.events =
      if board.Recording then (Action.events actions).foldl History.push board.journal.events
      else board.journal.events := by
  induction actions generalizing board with
  | nil => exact (ite_self _).symm
  | cons action rest ih =>
      obtain ⟨recording, first⟩ := board.events_observe action
      refine (ih (board.observe action)).trans ?_
      simp only [recording, first, Action.events_cons, List.foldl_append]
      split <;> rfl

end Board

end SoundCard
