import SoundCard.Board.Run

/-!
# How runs end

A run stops at the first tick that pulses the awaited line, or at its limit. Where a pulse means that
the work of the run is done, and what is known after so many ticks is kept by one more of them, this
tells where the run ends and what is known there.
-/

set_option autoImplicit false

namespace SoundCard.Board

variable {η : Type} {line : Line} {turn : η → Queues → η × Queues}
  {holds : Nat → η → Board Queues → Prop} {done : Nat → Prop}

/-- The run ended with the first tick at which its work was done, or at its limit, and what is known
after so many ticks holds there. -/
structure Ended (holds : Nat → η → Board Queues → Prop) (done : Nat → Prop) (limit : Nat)
    (run : Run η) : Prop where
  reached : holds run.ticks run.host run.board
  bounded : run.ticks ≤ limit
  earlier : ∀ ticks < run.ticks, ¬done ticks
  outcome : run.outcome = .interrupt ↔ done run.ticks
  timeout : run.outcome = .timeout → run.ticks = limit

/-- While the work is not done, a turn of the host and a tick keep what is known, and the tick pulses
the line exactly if it gets the work done. -/
def Works (line : Line) (turn : η → Queues → η × Queues) (holds : Nat → η → Board Queues → Prop)
    (done : Nat → Prop) : Prop :=
  ∀ (ticks : Nat) (host : η) (board : Board Queues), holds ticks host board → ¬done ticks →
    let next := (board.withVoices (turn host board.voices).2).tick
    holds (ticks + 1) (turn host board.voices).1 next.2.1 ∧ (line ∈ next.1 ↔ done (ticks + 1))

theorem Works.runFrom (works : Works line turn holds done) (limit : Nat) {ticks : Nat} {host : η}
    {board : Board Queues} (known : holds ticks host board) (undone : ∀ early ≤ ticks, ¬done early)
    (log : List Action) :
    Ended holds done (ticks + limit) (Board.runFrom line turn limit ticks board host log) := by
  -- On the ticks that are left, while the work was done at none of those before.
  induction limit generalizing ticks host board log with
  | zero =>
      have going : Outcome.timeout ≠ .interrupt := by decide
      exact ⟨known, Nat.le_refl _, fun early before => undone early (Nat.le_of_lt before),
        iff_of_false going (undone ticks (Nat.le_refl _)), fun _ => rfl⟩
  | succ limit ih =>
      obtain ⟨next, pulses⟩ := works _ _ _ known (undone ticks (Nat.le_refl _))
      have shifted : ticks + 1 + limit = ticks + (limit + 1) := by omega
      rw [Board.runFrom]
      dsimp only
      split
      · next pulsed =>
        have stopped : Outcome.interrupt ≠ .timeout := by decide
        exact ⟨next, shifted ▸ Nat.le_add_right ..,
          fun early before => undone early (Nat.le_of_lt_succ before),
          iff_of_true rfl (pulses.mp pulsed), fun going => absurd going stopped⟩
      · next quiet =>
        have still : ∀ early ≤ ticks + 1, ¬done early := by
          intro early before
          rcases Nat.lt_or_eq_of_le before with within | rfl
          · exact undone early (Nat.le_of_lt_succ within)
          · exact fun finished => quiet (pulses.mpr finished)
        exact shifted ▸ ih next still _

theorem Works.run (works : Works line turn holds done) (limit : Nat) {host : η}
    {board : Board Queues} (known : holds 0 host board) (undone : ¬done 0) :
    Ended holds done limit (board.run line limit turn host) := by
  have ended := works.runFrom limit known (fun early first => Nat.le_zero.mp first ▸ undone) []
  rwa [Nat.zero_add] at ended

namespace Ended

variable {limit : Nat} {run : Run η}

/-- Whatever is done by then is done at the limit, and the run does it if it is done at all. -/
theorem outcome_iff (ended : Ended holds done limit run)
    (lasting : ∀ first second, first ≤ second → done first → done second) :
    run.outcome = .interrupt ↔ ∃ ticks ≤ limit, done ticks := by
  constructor
  · exact fun finished => ⟨run.ticks, ended.bounded, ended.outcome.mp finished⟩
  · rintro ⟨ticks, within, finished⟩
    cases result : run.outcome with
    | interrupt => rfl
    | timeout =>
        rw [← result, ended.outcome, ended.timeout result]
        exact lasting ticks limit within finished

/-- A run that is done with a whole amount has got as far by its end as it gets by its limit. -/
theorem amount_eq {amount : Nat → Nat} {total : Nat}
    (ended : Ended holds (fun ticks => amount ticks = total) limit run)
    (growing : ∀ first second, first ≤ second → amount first ≤ amount second)
    (bounded : ∀ ticks, amount ticks ≤ total) :
    amount run.ticks = amount limit ∧ (run.outcome = .interrupt ↔ amount limit = total) := by
  have same : amount run.ticks = amount limit := by
    cases result : run.outcome with
    | interrupt =>
        have all : amount run.ticks = total := ended.outcome.mp result
        have more := growing run.ticks limit ended.bounded
        have most := bounded limit
        omega
    | timeout => rw [ended.timeout result]
  exact ⟨same, same ▸ ended.outcome⟩

end Ended

end SoundCard.Board
