import SoundCard.Proofs.Completion
import SoundCard.Proofs.Latest

/-!
# Every rising edge once

A recorder is told the levels of four lines one after the other, a pulse being a high level and a low
one. It shows of each line the level that it was told last, and it notes an edge exactly when a line is
driven high that is low. No edge is lost and none is noted twice: those that were taken so far, followed
by those that wait, are the rising edges of all lines in the order in which they happened.
-/

set_option autoImplicit false

namespace SoundCard.Recorder

/-- What is asked of a recorder: the card drives and pulses lines, and the owner of the board takes the
edges. -/
inductive Call where
  | drive (line : Line) (level : Bool)
  | pulse (line : Line)
  | takePending
  deriving DecidableEq

namespace Call

/-- The levels that a call tells, in order. -/
def drives : Call → List (Line × Bool)
  | .drive line level => [(line, level)]
  | .pulse line => [(line, true), (line, false)]
  | .takePending => []

def taken (recorder : Recorder) : Call → List Line
  | .takePending => recorder.takePending.1
  | .drive _ _ | .pulse _ => []

end Call

def call (recorder : Recorder) : Call → Recorder
  | .drive line level => recorder.drive line level
  | .pulse line => recorder.pulse line
  | .takePending => recorder.takePending.2

def after (recorder : Recorder) (history : List Call) : Recorder :=
  history.foldl call recorder

/-- Everything that the calls took, in order. -/
def takings (recorder : Recorder) : List Call → List Line
  | [] => []
  | call :: rest => call.taken recorder ++ (recorder.call call).takings rest

/-!
## Levels and edges of a history
-/

/-- The level of a line after it was driven so: the last one, and low before the first. -/
def settledLevel (drives : List (Line × Bool)) (line : Line) : Bool :=
  (latest? drives line).getD false

/-- The lines that are driven high while they are low, in order, if `past` was driven before. -/
def rises (past : List (Line × Bool)) : List (Line × Bool) → List Line
  | [] => []
  | (line, level) :: rest =>
    (if level = true ∧ settledLevel past line = false then [line] else []) ++
      rises (past ++ [(line, level)]) rest

theorem rises_append (past first second : List (Line × Bool)) :
    rises past (first ++ second) = rises past first ++ rises (past ++ first) second := by
  induction first generalizing past with
  | nil => simp [rises]
  | cons drive rest ih => simp [rises, ih]

/-- The recorder shows what was driven, and no edge of it is lost or noted twice. -/
structure Records (drives : List (Line × Bool)) (given : List Line) (recorder : Recorder) : Prop where
  level : ∀ line, recorder.level line = settledLevel drives line
  edges : given ++ recorder.pending = rises [] drives
  count : ∀ line, recorder.count line = (rises [] drives).count line

namespace Records

variable {drives : List (Line × Bool)} {given : List Line} {recorder : Recorder}

theorem quiet : Records [] [] .quiet := by
  refine ⟨allLow_quiet, rfl, fun line => ?_⟩
  cases line <;> rfl

theorem drive (records : Records drives given recorder) (line : Line) (level : Bool) :
    Records (drives ++ [(line, level)]) given (recorder.drive line level) := by
  have rise : recorder.rise line level = rises drives [(line, level)] := by
    simp [Recorder.rise, rises, records.level]
  have driven : rises [] (drives ++ [(line, level)]) =
      rises [] drives ++ recorder.rise line level := by
    rw [rises_append, List.nil_append, rise]
  constructor
  · intro other
    rw [level_drive, settledLevel, latest?_append_singleton, records.level]
    by_cases same : other = line
    · simp [same]
    · simp [same, Ne.symm same, settledLevel]
  · rw [pending_drive, driven, ← records.edges, List.append_assoc]
  · intro other
    rw [count_drive, driven, List.count_append, records.count]

theorem takePending (records : Records drives given recorder) :
    Records drives (given ++ recorder.takePending.1) recorder.takePending.2 :=
  ⟨records.level, (List.append_nil _).trans records.edges, records.count⟩

theorem call (records : Records drives given recorder) (call : Call) :
    Records (drives ++ call.drives) (given ++ call.taken recorder) (recorder.call call) := by
  cases call with
  | drive line level =>
      simpa [Call.drives, Call.taken, Recorder.call] using records.drive line level
  | pulse line =>
      have pulsed := (records.drive line true).drive line false
      simpa [Call.drives, Call.taken, Recorder.call, Recorder.pulse] using pulsed
  | takePending => simpa [Call.drives, Call.taken, Recorder.call] using records.takePending

theorem after (records : Records drives given recorder) (history : List Call) :
    Records (drives ++ history.flatMap Call.drives) (given ++ recorder.takings history)
      (recorder.after history) := by
  induction history generalizing drives given recorder with
  | nil => simpa [takings, Recorder.after] using records
  | cons call rest ih =>
      have later := ih (records.call call)
      simpa [takings, Recorder.after, List.append_assoc] using later

end Records

/-- What is not told about a line does not change what is kept of it. -/
theorem call_apart (recorder : Recorder) {call : Call} {other : Line}
    (apart : ∀ drive ∈ call.drives, drive.1 ≠ other) :
    (recorder.call call).level other = recorder.level other ∧
      (recorder.call call).count other = recorder.count other := by
  have driven : ∀ (recorder : Recorder) (line : Line) (level : Bool), line ≠ other →
      (recorder.drive line level).level other = recorder.level other ∧
        (recorder.drive line level).count other = recorder.count other := by
    intro recorder line level different
    constructor
    · rw [level_drive, if_neg (Ne.symm different)]
    · rw [count_drive, rise]
      split <;> simp [different]
  cases call with
  | drive line level => exact driven recorder line level (apart (line, level) (List.mem_singleton_self _))
  | pulse line =>
      have different : line ≠ other := apart (line, true) (List.mem_cons_self ..)
      obtain ⟨raised, counted⟩ := driven recorder line true different
      obtain ⟨released, still⟩ := driven (recorder.drive line true) line false different
      exact ⟨released.trans raised, still.trans counted⟩
  | takePending => exact ⟨rfl, rfl⟩

theorem anyHigh_iff (recorder : Recorder) :
    recorder.anyHigh = true ↔ ∃ line, recorder.level line = true := by
  simp [anyHigh, Line.mem_all]

/-- From the beginning on, a recorder shows the last level of each line, counts how often the line was
driven high while it was low, and hands out every rising edge exactly once and in order. -/
theorem rises_recorded (history : List Call) :
    let recorder := quiet.after history
    let drives := history.flatMap Call.drives
    let edges := rises [] drives
    (∀ line, recorder.level line = (latest? drives line).getD false) ∧
      (recorder.anyHigh = true ↔ ∃ line, recorder.level line = true) ∧
      (∀ line, recorder.count line = edges.count line) ∧
      quiet.takings history ++ recorder.pending = edges ∧
      recorder.total = edges.length ∧
      (∀ line, (recorder.signals.get line).risen = false) ∧
      ∀ (call : Call) (other : Line), (∀ drive ∈ call.drives, drive.1 ≠ other) →
        (recorder.call call).level other = recorder.level other ∧
          (recorder.call call).count other = recorder.count other := by
  intro recorder drives edges
  have records : Records drives (quiet.takings history) recorder := Records.quiet.after history
  refine ⟨records.level, recorder.anyHigh_iff, records.count, records.edges, ?_, recorder.taken,
    fun call other => recorder.call_apart⟩
  simp only [total, records.count]
  exact (Line.length_eq_counts _).symm

/-- A line that is held high while others are pulsed, a pulse on it that shows no edge, and the edges
taken in between. -/
theorem rises_recorded_held :
    let history : List Call :=
      [.drive .captureDone true, .pulse .codecReply, .takePending, .drive .captureDone true,
        .pulse .captureDone, .pulse .captureDone, .drive .codecReply true]
    let recorder := quiet.after history
    let other := recorder.call (.pulse .playbackDone)
    recorder.level .captureDone = false ∧ recorder.anyHigh = true ∧
      quiet.takings history ++ recorder.pending =
        [.captureDone, .codecReply, .captureDone, .codecReply] ∧
      recorder.count .captureDone = 2 ∧ recorder.total = 4 ∧
      other.level .codecReply = true ∧ other.count .codecReply = 2 := by
  intro history recorder other
  obtain ⟨levels, any, counts, edges, total, _, apart⟩ := rises_recorded history
  have reply : recorder.level .codecReply = true := (levels .codecReply).trans (by decide)
  have elsewhere : ∀ drive ∈ (Call.pulse .playbackDone).drives, drive.1 ≠ Line.codecReply := by decide
  obtain ⟨level, count⟩ := apart (.pulse .playbackDone) .codecReply elsewhere
  exact ⟨(levels .captureDone).trans (by decide), any.mpr ⟨_, reply⟩, edges.trans (by decide),
    (counts .captureDone).trans (by decide), total.trans (by decide), level.trans reply,
    count.trans ((counts .codecReply).trans (by decide))⟩

end SoundCard.Recorder
