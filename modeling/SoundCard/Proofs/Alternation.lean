import Mathlib.Logic.Function.Iterate
import SoundCard.Proofs.Ending
import SoundCard.Proofs.Transfer
import SoundCard.Stream

/-!
# Runs as an alternation

In a run the host has one turn, then the sound system ticks once, and so on. The run ends right after
the first tick that gives the awaited line, and otherwise when its ticks are used up. So a run that was
stopped by its limit can be taken up by another one: together they are the run that was not stopped, and
no turn of the host is lost or made twice in between.
-/

set_option autoImplicit false

namespace SoundCard.Board

variable {η κ : Type} (turn : η → Queues → η × Queues)

/-!
## Rounds
-/

/-- The board when the host had its turn. -/
def hosted (now : η × Board Queues) : Board Queues :=
  now.2.withVoices (turn now.1 now.2.voices).2

/-- A turn of the host and a tick. -/
def round (now : η × Board Queues) : η × Board Queues :=
  ((turn now.1 now.2.voices).1, (hosted turn now).tick.2.1)

/-- The host and the board after so many rounds, whatever the ticks give. -/
def alternate (rounds : Nat) (now : η × Board Queues) : η × Board Queues :=
  (round turn)^[rounds] now

/-- The lines that the tick gives in the next round after so many. -/
def pulsesAfter (rounds : Nat) (now : η × Board Queues) : List Line :=
  (hosted turn (alternate turn rounds now)).tick.1

/-- What the host finds in each of so many turns: its own state, and the voices. -/
def findings (rounds : Nat) (now : η × Board Queues) : List (η × Queues) :=
  (List.range rounds).map fun past =>
    ((alternate turn past now).1, (alternate turn past now).2.voices)

/-- The host that keeps a note of what it finds. -/
def noting (noted : η × List (η × Queues)) (voices : Queues) : (η × List (η × Queues)) × Queues :=
  (((turn noted.1 voices).1, noted.2 ++ [(noted.1, voices)]), (turn noted.1 voices).2)

theorem alternate_succ (rounds : Nat) (now : η × Board Queues) :
    alternate turn (rounds + 1) now = round turn (alternate turn rounds now) :=
  Function.iterate_succ_apply' ..

theorem alternate_add (first second : Nat) (now : η × Board Queues) :
    alternate turn (first + second) now = alternate turn second (alternate turn first now) := by
  rw [Nat.add_comm]
  exact Function.iterate_add_apply ..

theorem findings_succ (rounds : Nat) (now : η × Board Queues) :
    findings turn (rounds + 1) now = findings turn rounds now ++
      [((alternate turn rounds now).1, (alternate turn rounds now).2.voices)] := by
  simp [findings, List.range_succ]

theorem findings_add (first second : Nat) (now : η × Board Queues) :
    findings turn (first + second) now =
      findings turn first now ++ findings turn second (alternate turn first now) := by
  simp [findings, List.range_add, alternate_add]

/-- Taking notes makes no difference to the rounds. -/
theorem alternate_noting (rounds : Nat) (host : η) (board : Board Queues) :
    alternate (noting turn) rounds ((host, []), board) =
      (((alternate turn rounds (host, board)).1, findings turn rounds (host, board)),
        (alternate turn rounds (host, board)).2) := by
  induction rounds with
  | zero => rfl
  | succ rounds ih =>
      rw [alternate_succ, alternate_succ, findings_succ, ih]
      rfl

/-!
## Runs
-/

/-- The remark at the end of a run that was not stopped by its limit. -/
def closing (line : Line) (outcome : Outcome) (ticks : Nat) : List Action :=
  if outcome = .interrupt then [.notice (.reached line ticks)] else []

def Run.mapHost (change : κ → η) (run : Run κ) : Run η :=
  ⟨run.outcome, run.ticks, run.board, change run.host, run.log⟩

/-- A run begins with a round, and goes on if the tick did not give the line. -/
theorem runFrom_succ (line : Line) (limit ticks : Nat) (now : η × Board Queues)
    (log : List Action) :
    runFrom line turn (limit + 1) ticks now.2 now.1 log =
      let next := round turn now
      let log := (hosted turn now).tick.2.2.reverseAux log
      if line ∈ pulsesAfter turn 0 now then
        ⟨.interrupt, ticks + 1, next.2, next.1, .notice (.reached line (ticks + 1)) :: log⟩
      else runFrom line turn limit (ticks + 1) next.2 next.1 log := rfl

/-- The rounds of a run are those of the alternation, up to the first one that gives the line. -/
theorem works_alternate (line : Line) (now : η × Board Queues) :
    Works line turn (fun ticks host board => (host, board) = alternate turn ticks now)
      fun ticks => ∃ last, ticks = last + 1 ∧ line ∈ pulsesAfter turn last now := by
  intro ticks host board reached _
  constructor
  · exact (congrArg (round turn) reached).trans (alternate_succ turn ticks now).symm
  · have given : pulsesAfter turn ticks now = (hosted turn (host, board)).tick.1 := by
      rw [pulsesAfter, ← reached]
    simp [given, hosted]

/-- What went before a run shows only in its number of ticks and in what is behind in its log. -/
theorem exists_runFrom (line : Line) (limit : Nat) (now : η × Board Queues) :
    ∃ (outcome : Outcome) (count : Nat) (last : η × Board Queues) (deeds : List Action),
      ∀ (ticks : Nat) (log : List Action), runFrom line turn limit ticks now.2 now.1 log =
        ⟨outcome, ticks + count, last.2, last.1,
          closing line outcome (ticks + count) ++ (deeds ++ log)⟩ := by
  induction limit generalizing now with
  | zero => exact ⟨.timeout, 0, now, [], fun _ _ => rfl⟩
  | succ limit ih =>
      by_cases pulsed : line ∈ pulsesAfter turn 0 now
      · refine ⟨.interrupt, 1, round turn now, (hosted turn now).tick.2.2.reverse, fun ticks log => ?_⟩
        simp [runFrom_succ, pulsed, closing, List.reverseAux_eq]
      · obtain ⟨outcome, count, last, deeds, later⟩ := ih (round turn now)
        refine ⟨outcome, count + 1, last, deeds ++ (hosted turn now).tick.2.2.reverse,
          fun ticks log => ?_⟩
        have counted : ticks + 1 + count = ticks + (count + 1) := by omega
        simp [runFrom_succ, pulsed, later, counted, List.reverseAux_eq]

/-- A run that is taken up after some ticks is a run from the beginning that counts them too. -/
theorem exists_runFrom_eq (line : Line) (limit : Nat) (board : Board Queues) (host : η) :
    let run := board.run line limit turn host
    ∃ deeds, run.log = closing line run.outcome run.ticks ++ deeds ∧
      ∀ (ticks : Nat) (log : List Action), runFrom line turn limit ticks board host log =
        ⟨run.outcome, ticks + run.ticks, run.board, run.host,
          closing line run.outcome (ticks + run.ticks) ++ (deeds ++ log)⟩ := by
  obtain ⟨outcome, count, last, deeds, same⟩ :=
    exists_runFrom turn line limit (host, board)
  have run : board.run line limit turn host = _ := same 0 []
  refine ⟨deeds, ?_, fun ticks log => ?_⟩
  · simp [run]
  · simp [run, same]

variable {turn}

/-- A host that knows more than another one and acts like it takes part in the same run. -/
theorem runFrom_mapHost {other : κ → Queues → κ × Queues} (change : κ → η)
    (acts : ∀ host voices, turn (change host) voices =
      (change (other host voices).1, (other host voices).2))
    (line : Line) (limit ticks : Nat) (board : Board Queues) (host : κ) (log : List Action) :
    runFrom line turn limit ticks board (change host) log =
      (runFrom line other limit ticks board host log).mapHost change := by
  induction limit generalizing ticks board host log with
  | zero => rfl
  | succ limit ih =>
      rw [runFrom, runFrom, acts]
      dsimp only
      split
      · rfl
      · exact ih ..

/-- A higher limit only matters to a run that was stopped by its limit. -/
theorem runFrom_add {line : Line} {first ticks : Nat} {board : Board Queues} {host : η}
    {log : List Action} {begun : Run η}
    (begins : runFrom line turn first ticks board host log = begun) (second : Nat) :
    runFrom line turn (first + second) ticks board host log =
      match begun.outcome with
      | .interrupt => begun
      | .timeout => runFrom line turn second begun.ticks begun.board begun.host begun.log := by
  induction first generalizing ticks board host log with
  | zero =>
      subst begins
      rw [Nat.zero_add]
      rfl
  | succ first ih =>
      rw [Nat.add_right_comm, runFrom]
      rw [runFrom] at begins
      dsimp only at begins ⊢
      split
      · next pulsed =>
        rw [if_pos pulsed] at begins
        subst begins
        rfl
      · next quiet =>
        rw [if_neg quiet] at begins
        exact ih begins

section

variable (turn) (line : Line) (limit : Nat) (board : Board Queues) (host : η)

/-- What the host notes of its turns in a run. -/
def found : List (η × Queues) :=
  (board.run line limit (noting turn) (host, [])).host.2

/-- The run of a host that takes notes is the same run. -/
theorem run_noting :
    let run := board.run line limit turn host
    board.run line limit (noting turn) (host, []) =
      ⟨run.outcome, run.ticks, run.board, (run.host, board.found turn line limit host), run.log⟩ := by
  have same : board.run line limit turn host =
      (board.run line limit (noting turn) (host, [])).mapHost Prod.fst :=
    runFrom_mapHost Prod.fst (fun _ _ => rfl) line limit 0 board (host, []) []
  rw [same]
  rfl

theorem found_eq :
    board.found turn line limit host =
      findings turn (board.run line limit turn host).ticks (host, board) := by
  have ended := (works_alternate (noting turn) line ((host, []), board)).run limit rfl nofun
  have reached := ended.reached
  rw [run_noting, alternate_noting] at reached
  exact congrArg (fun now => now.1.2) reached

/-- A run is an alternation up to the first tick that gives the line, or up to its limit. -/
theorem run_spec :
    let run := board.run line limit turn host
    let pulses := fun rounds => pulsesAfter turn rounds (host, board)
    (run.host, run.board) = alternate turn run.ticks (host, board) ∧
      (∀ past, past + 1 < run.ticks → line ∉ pulses past) ∧
      (run.outcome = .interrupt ↔ ∃ last < limit, run.ticks = last + 1 ∧ line ∈ pulses last) ∧
      (run.outcome = .timeout ↔ run.ticks = limit ∧ ∀ past < limit, line ∉ pulses past) := by
  intro run pulses
  have ended : Ended _ _ limit run := (works_alternate turn line (host, board)).run limit rfl nofun
  have bounded := ended.bounded
  have earlier : ∀ past, past + 1 < run.ticks → line ∉ pulses past :=
    fun past before given => ended.earlier (past + 1) before ⟨past, rfl, given⟩
  refine ⟨ended.reached, earlier, ⟨fun finished => ?_, ?_⟩, fun going => ?_, ?_⟩
  · obtain ⟨last, ticks, given⟩ := ended.outcome.mp finished
    exact ⟨last, by omega, ticks, given⟩
  · rintro ⟨last, _, ticks, given⟩
    exact ended.outcome.mpr ⟨last, ticks, given⟩
  · have ticks := ended.timeout going
    refine ⟨ticks, fun past within given => ?_⟩
    rcases Nat.lt_or_eq_of_le (Nat.succ_le_of_lt within) with before | last
    · exact earlier past (ticks ▸ before) given
    · have finished := ended.outcome.mpr ⟨past, ticks.trans last.symm, given⟩
      cases going.symm.trans finished
  · rintro ⟨_, never⟩
    cases outcome : run.outcome with
    | timeout => rfl
    | interrupt =>
        obtain ⟨last, ticks, given⟩ := ended.outcome.mp outcome
        exact absurd given (never last (by omega))

/-- A run that timed out and the run that takes it up are one run. -/
theorem run_add_of_timeout {first : Nat} (going : (board.run line first turn host).outcome = .timeout)
    (second : Nat) :
    let begun := board.run line first turn host
    let resumed := begun.board.run line second turn begun.host
    ∃ deeds, resumed.log = closing line resumed.outcome resumed.ticks ++ deeds ∧
      board.run line (first + second) turn host =
        ⟨resumed.outcome, first + resumed.ticks, resumed.board, resumed.host,
          closing line resumed.outcome (first + resumed.ticks) ++ (deeds ++ begun.log)⟩ := by
  intro begun resumed
  obtain ⟨_, _, _, timeout⟩ := run_spec turn line first board host
  have ticks : begun.ticks = first := (timeout.mp going).1
  obtain ⟨deeds, logged, same⟩ := exists_runFrom_eq turn line second begun.board begun.host
  have split : board.run line (first + second) turn host = _ :=
    runFrom_add (rfl : board.run line first turn host = begun) second
  rw [going] at split
  refine ⟨deeds, logged, split.trans ((same begun.ticks begun.log).trans ?_)⟩
  rw [ticks]

end

/-- A run is an alternation of turns of the host and ticks that stops at the first tick that gives the
line, and two runs of which the second takes up the first one, if that timed out, are one run. -/
theorem run_composed (board : Board Queues) (line : Line) (turn : η → Queues → η × Queues)
    (host : η) :
    (∀ limit,
      let run := board.run line limit turn host
      let pulses := fun rounds => pulsesAfter turn rounds (host, board)
      (run.host, run.board) = alternate turn run.ticks (host, board) ∧
        board.run line limit (noting turn) (host, []) =
          ⟨run.outcome, run.ticks, run.board, (run.host, board.found turn line limit host), run.log⟩ ∧
        board.found turn line limit host = findings turn run.ticks (host, board) ∧
        (∀ past, past + 1 < run.ticks → line ∉ pulses past) ∧
        (run.outcome = .interrupt ↔ ∃ last < limit, run.ticks = last + 1 ∧ line ∈ pulses last) ∧
        (run.outcome = .timeout ↔ run.ticks = limit ∧ ∀ past < limit, line ∉ pulses past)) ∧
      ∀ first second,
        let whole := board.run line (first + second) turn host
        let begun := board.run line first turn host
        let resumed := begun.board.run line second turn begun.host
        let found := board.found turn line
        (begun.outcome = .interrupt → whole = begun ∧ found (first + second) host = found first host) ∧
          (begun.outcome = .timeout →
            whole.outcome = resumed.outcome ∧ whole.ticks = first + resumed.ticks ∧
              whole.board = resumed.board ∧ whole.host = resumed.host ∧
              found (first + second) host =
                found first host ++ begun.board.found turn line second begun.host ∧
              ∃ deeds, resumed.log = closing line resumed.outcome resumed.ticks ++ deeds ∧
                whole.log = closing line whole.outcome whole.ticks ++ (deeds ++ begun.log)) := by
  refine ⟨fun limit => ?_, fun first second => ?_⟩
  · obtain ⟨reached, earlier, interrupt, timeout⟩ := run_spec turn line limit board host
    exact ⟨reached, run_noting turn line limit board host, found_eq turn line limit board host,
      earlier, interrupt, timeout⟩
  · obtain ⟨reached, _, _, timeout⟩ := run_spec turn line first board host
    dsimp only
    refine ⟨fun finished => ?_, fun going => ?_⟩
    · have same : board.run line (first + second) turn host = board.run line first turn host := by
        refine (runFrom_add (rfl : _ = board.run line first turn host) second).trans ?_
        rw [finished]
      rw [found_eq, found_eq, same]
      exact ⟨rfl, rfl⟩
    · obtain ⟨deeds, logged, same⟩ := run_add_of_timeout turn line board host going second
      rw [found_eq, found_eq, found_eq, same, (timeout.mp going).1, findings_add]
      rw [(timeout.mp going).1] at reached
      rw [← reached]
      exact ⟨rfl, rfl, rfl, rfl, rfl, deeds, logged, rfl⟩

/-- Nine bytes through a queue for four. The listener finds it full again when the run is taken up. -/
theorem run_composed_cut :
    let memory : Memory := (Memory.zeros 16 8).write 16 [1, 2, 3, 4, 5, 6, 7, 8]
    let start := (powerOn (Queues.closed 4) memory (.empty false) false).1.arm .playback 16 9 1
    let begun := start.run .playbackDone 2 (Stream.listen 3) []
    let resumed := begun.board.run .playbackDone 3 (Stream.listen 3) begun.host
    let whole := start.run .playbackDone (2 + 3) (Stream.listen 3) []
    let found := start.found (Stream.listen 3) .playbackDone (2 + 3) []
    begun.outcome = .timeout ∧ resumed.outcome = .interrupt ∧ resumed.ticks = 1 ∧
      whole.outcome = .interrupt ∧ whole.ticks = 3 ∧
      whole.host = [[4, 5, 6], [1, 2, 3], []] ∧
      found.map (fun turn => turn.2.playback.toList) = [[], [1, 2, 3, 4], [4, 5, 6, 7]] := by
  intro memory start begun resumed whole found
  have going : begun.outcome = .timeout := by decide +kernel
  have finished : resumed.outcome = .interrupt := by decide +kernel
  have ticks : resumed.ticks = 1 := by decide +kernel
  have heard : resumed.host = [[4, 5, 6], [1, 2, 3], []] := by decide +kernel
  obtain ⟨outcome, counted, _, host, turns, _⟩ :=
    ((run_composed start .playbackDone (Stream.listen 3) []).2 2 3).2 going
  refine ⟨going, finished, ticks, outcome.trans finished, counted.trans ?_, host.trans heard, ?_⟩
  · exact congrArg (2 + ·) ticks
  · exact (congrArg _ turns).trans (by decide +kernel)

end SoundCard.Board
