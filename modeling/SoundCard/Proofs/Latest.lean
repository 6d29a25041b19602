import Mathlib.Data.List.Induction

/-!
# What was assigned last

Cells of memory, levels of lines, switches of voices and words of the card have one law in common:
each of them shows what was assigned to it last, and nothing else changes what it shows. `latest?` is
the last assignment in a history, `Shows` is the law of one step, and `Shows.foldl` that of a history.

Where an event means something only in the light of those before it, a history is read by `mapPast`.
-/

set_option autoImplicit false

namespace SoundCard

variable {κ ν : Type} [DecidableEq κ]

/-- The value that the last assignment to the key gives it, if there is one. -/
def latest? (assignments : List (κ × ν)) (key : κ) : Option ν :=
  (assignments.filter fun assigned => assigned.1 = key).getLast?.map Prod.snd

@[simp] theorem latest?_nil (key : κ) : latest? ([] : List (κ × ν)) key = none := rfl

theorem latest?_append_singleton (assignments : List (κ × ν)) (assigned : κ × ν) (key : κ) :
    latest? (assignments ++ [assigned]) key =
      if assigned.1 = key then some assigned.2 else latest? assignments key := by
  by_cases same : assigned.1 = key <;> simp [latest?, same]

/-- An assignment to the key shows in the view of the state, and no other event changes it. -/
structure Shows {σ ε α : Type} (step : σ → ε → σ) (invariant : σ → Prop)
    (assigned? : ε → Option (κ × ν)) (key : κ) (view : σ → α) (shown : ν → α) : Prop where
  kept : ∀ state event, invariant state → invariant (step state event)
  assigned : ∀ state event value, invariant state → assigned? event = some (key, value) →
    view (step state event) = shown value
  unassigned : ∀ state event, invariant state → (∀ value, assigned? event ≠ some (key, value)) →
    view (step state event) = view state

/-- After a history the view shows what was assigned last, and if nothing was, what it showed before. -/
theorem Shows.foldl {σ ε α : Type} {step : σ → ε → σ} {invariant : σ → Prop}
    {assigned? : ε → Option (κ × ν)} {key : κ} {view : σ → α} {shown : ν → α}
    (shows : Shows step invariant assigned? key view shown) {start : σ} (initially : invariant start)
    (history : List ε) :
    view (history.foldl step start) =
      ((latest? (history.filterMap assigned?) key).map shown).getD (view start) := by
  have always : ∀ past : List ε, invariant (past.foldl step start) := fun past =>
    List.foldlRecOn past step initially fun state holds event _ => shows.kept state event holds
  -- On the last event, which either assigns to the key or leaves what is shown alone.
  induction history using List.reverseRecOn with
  | nil => rfl
  | append_singleton past event ih =>
      rw [List.foldl_append, List.filterMap_append]
      by_cases here : ∃ value, assigned? event = some (key, value)
      · obtain ⟨value, found⟩ := here
        have last : [event].filterMap assigned? = [(key, value)] := by simp [found]
        simpa [last, latest?_append_singleton] using
          shows.assigned _ event value (always past) found
      · have apart : ∀ value, assigned? event ≠ some (key, value) := by simpa using here
        refine (shows.unassigned _ event (always past) apart).trans (ih.trans ?_)
        cases found : assigned? event with
        | none => simp [found]
        | some other =>
            have elsewhere : other.1 ≠ key := fun same => apart other.2 (by rw [found, ← same])
            have last : [event].filterMap assigned? = [other] := by simp [found]
            simp [last, latest?_append_singleton, elsewhere]

/-- What the events of a history come to, each of them read in the light of those before it. -/
def mapPast {ε α : Type} (read : List ε → ε → α) (past : List ε) : List ε → List α
  | [] => []
  | event :: rest => read past event :: mapPast read (past ++ [event]) rest

theorem mapPast_append {ε α : Type} (read : List ε → ε → α) (past first second : List ε) :
    mapPast read past (first ++ second) =
      mapPast read past first ++ mapPast read (past ++ first) second := by
  induction first generalizing past with
  | nil => simp [mapPast]
  | cons event rest ih => simp [mapPast, ih]

end SoundCard
