import SoundCard.Files.Store
import SoundCard.Stream

/-!
# Computations that succeed

A computation that gives a value got there step by step, so each of its steps gave one. For sessions
with a store this tells what was read and written on the way, without the failures that did not
happen.
-/

set_option autoImplicit false

namespace SoundCard

namespace Except

variable {ε ε' α β : Type}

theorem exists_of_bind {computation : Except ε α} {next : α → Except ε β} {result : β}
    (accepted : computation >>= next = .ok result) :
    ∃ value, computation = .ok value ∧ next value = .ok result := by
  cases computation with
  | error refusal => cases accepted
  | ok value => exact ⟨value, rfl, accepted⟩

theorem mapError_ok (value : α) (rename : ε → ε') :
    Except.mapError rename (.ok value) = .ok value := rfl

theorem of_mapError {computation : Except ε α} {rename : ε → ε'} {result : α}
    (accepted : computation.mapError rename = .ok result) : computation = .ok result := by
  cases computation with
  | error refusal => cases accepted
  | ok value => exact congrArg Except.ok (Except.ok.inj accepted)

theorem of_toOption {computation : Except ε α} {result : α}
    (accepted : computation.toOption = some result) : computation = .ok result := by
  cases computation with
  | error refusal => cases accepted
  | ok value => exact congrArg Except.ok (Option.some.inj accepted)

end Except

namespace Stream.Session

variable {α β : Type}

/-- The notices kept so far, last one first, and the store. -/
abbrev World : Type := List Notice × Store

def outcome (session : Session (StateM Store) α) (world : World) : Except Failure α × World :=
  let ((result, notices), store) := session world.1 world.2
  (result, notices, store)

/-- In the first world the session gives the value and leaves the second one. -/
def Gives (session : Session (StateM Store) α) (before : World) (value : α) (after : World) : Prop :=
  session.outcome before = (.ok value, after)

theorem outcome_bind (session : Session (StateM Store) α) (next : α → Session (StateM Store) β)
    (world : World) :
    outcome (session >>= next) world =
      match session.outcome world with
      | (.ok value, after) => (next value).outcome after
      | (.error failure, after) => (.error failure, after) := by
  unfold outcome
  cases found : session world.1 world.2 with
  | mk told store =>
      obtain ⟨result, notices⟩ := told
      have first : (session >>= next) world.1 world.2 =
          ExceptT.bindCont next result notices store := by
        show ExceptT.bindCont next (session world.1 world.2).1.1 (session world.1 world.2).1.2
          (session world.1 world.2).2 = _
        rw [found]
      rw [first]
      cases result <;> rfl

theorem outcome_lift (action : StateM Store α) (world : World) :
    outcome (liftM action) world = (.ok (action world.2).1, world.1, (action world.2).2) := rfl

theorem gives_bind {session : Session (StateM Store) α} {next : α → Session (StateM Store) β}
    {before after : World} {result : β} :
    Gives (session >>= next) before result after ↔
      ∃ value middle, session.Gives before value middle ∧ (next value).Gives middle result after := by
  unfold Gives
  rw [outcome_bind]
  constructor
  · intro given
    split at given
    · next value middle here => exact ⟨value, middle, here, given⟩
    · cases given
  · rintro ⟨value, middle, here, there⟩
    rw [here]
    exact there

theorem gives_pure {value result : α} {before after : World} :
    Gives (pure value) before result after ↔ value = result ∧ before = after := by
  show (Except.ok value, before) = (Except.ok result, after) ↔ _
  simp

theorem not_gives_throw {failure : Failure} {result : α} {before after : World} :
    ¬Gives (throw failure) before result after := by
  intro given
  cases congrArg Prod.fst given

theorem gives_ofExcept {checked : Except Failure α} {result : α} {before after : World} :
    Gives (MonadExcept.ofExcept checked) before result after ↔
      checked = .ok result ∧ before = after := by
  cases checked with
  | ok value =>
      refine gives_pure.trans ?_
      rw [Except.ok.injEq]
  | error failure => exact iff_of_false not_gives_throw fun both => nomatch both.1

theorem gives_keep {actions : List Action} {before after : World} {result : Unit} :
    Gives (keep actions) before result after ↔
      ((actions.filterMap Action.notice?).reverseAux before.1, before.2) = after := by
  show (Except.ok (), _) = (Except.ok result, after) ↔ _
  simp

theorem outcome_read (path : String) (failure : FileError → Failure) (world : World) :
    outcome (read path failure) world = ((world.2.read path).mapError failure, world) := by
  have found : (FileSystem.read path : StateM Store _) world.2 =
      (world.2.read path, world.2) := rfl
  rw [read, outcome_bind, outcome_lift, found]
  cases world.2.read path <;> rfl

theorem gives_read {path : String} {failure : FileError → Failure} {before after : World}
    {content : List UInt8} :
    Gives (read path failure) before content after ↔
      before.2.read path = .ok content ∧ before = after := by
  unfold Gives
  rw [outcome_read, Prod.mk.injEq]
  constructor
  · rintro ⟨accepted, same⟩
    exact ⟨Except.of_mapError accepted, same⟩
  · rintro ⟨found, same⟩
    exact ⟨congrArg (Except.mapError failure) found, same⟩

theorem outcome_write (path : String) (content : List UInt8) (failure : FileError → Failure)
    (world : World) :
    outcome (write path content failure) world =
      match world.2.write path content with
      | .ok store => (.ok (), world.1, store)
      | .error cause => (.error (failure cause), world) := by
  have wrote : (FileSystem.write path content : StateM Store _) world.2 =
      match world.2.write path content with
      | .ok store => (.ok (), store)
      | .error cause => (.error cause, world.2) := rfl
  rw [write, outcome_bind, outcome_lift, wrote]
  cases world.2.write path content <;> rfl

theorem gives_write {path : String} {content : List UInt8} {failure : FileError → Failure}
    {before after : World} {result : Unit} :
    Gives (write path content failure) before result after ↔
      ∃ store, before.2.write path content = .ok store ∧ (before.1, store) = after := by
  unfold Gives
  rw [outcome_write]
  cases before.2.write path content <;> simp

/-- What a session gives that starts in a store with no notices yet, and the store that it leaves. -/
def result (session : Session (StateM Store) α) (store : Store) : Except Failure α × Store :=
  let ((result, _), after) := session.run store
  (result, after)

theorem result_eq_outcome (session : Session (StateM Store) α) (store : Store) :
    session.result store =
      ((session.outcome ([], store)).1, (session.outcome ([], store)).2.2) := rfl

theorem gives_of_result {session : Session (StateM Store) α} {store : Store} {value : α}
    (given : (session.result store).1 = .ok value) :
    ∃ notices, session.Gives ([], store) value (notices, (session.result store).2) :=
  ⟨(session.outcome ([], store)).2.1, Prod.ext given rfl⟩

theorem Gives.result {session : Session (StateM Store) α} {store : Store} {value : α}
    {after : World} (given : session.Gives ([], store) value after) :
    session.result store = (.ok value, after.2) := by
  rw [result_eq_outcome, given]

end Stream.Session

end SoundCard
