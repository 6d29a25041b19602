import SoundCard.Proofs.Latest
import SoundCard.Proofs.Progress
import SoundCard.Voice.Queues

/-!
# Ten words behind the bus

From power on, and as long as the card is only read and written, the bus shows ten words that have
nothing to do with each other: a read gives the value that was written to the same position last. The
two low bits of an offset do not matter, and the command word does not give back its request bit. Every
other position of the window is a hole. An access to it changes nothing, and it is worth one error,
which a debugger keeps whether or not it records events.
-/

set_option autoImplicit false

namespace SoundCard

namespace Register

/-- Positions of the window where a word answers. -/
def Answered (index : Nat) : Prop :=
  index ≤ 6 ∨ 8 ≤ index ∧ index ≤ 10

instance (index : Nat) : Decidable (Answered index) :=
  inferInstanceAs (Decidable (_ ∨ _))

/-- What a position keeps of a value that is written to it. -/
def kept (index : Nat) (value : UInt32) : UInt32 :=
  if index = 0 then value &&& ~~~1 else value

theorem answered_iff {index : Nat} :
    Answered index ↔ ∃ register, reached? index = some register := by
  constructor
  · intro answered
    have inside : index < count := by
      unfold Answered at answered
      unfold count
      omega
    obtain ⟨register, place⟩ := exists_index ⟨index, inside⟩
    have here : index = register.index := (congrArg Fin.val place).symm
    refine ⟨register, reached?_eq_some_iff.mpr ⟨here, ?_⟩⟩
    rintro rfl
    subst here
    revert answered
    decide
  · rintro ⟨register, found⟩
    obtain ⟨rfl, unreserved⟩ := reached?_eq_some_iff.mp found
    cases register <;> first | decide | exact absurd rfl unreserved

theorem reached?_eq_none {index : Nat} (hole : ¬Answered index) : reached? index = none := by
  rw [answered_iff] at hole
  simpa [Option.eq_none_iff_forall_ne_some] using hole

theorem testBit_kept (index : Nat) (value : UInt32) (bit : Nat) :
    (kept index value).toNat.testBit bit =
      (decide (index ≠ 0 ∨ bit ≠ 0) && value.toNat.testBit bit) := by
  by_cases first : index = 0
  · rw [kept, if_pos first]
    refine ((CodecControl.mk value).testBit_settled bit).trans ?_
    simp [first]
  · simp [kept, first]

end Register

namespace Access

/-- The error that an access to a hole is worth. It tells the byte offset. -/
def complaint (access : Access) (index : Nat) : String :=
  "AC97 " ++ access.name ++ " access to unknown register 0x" ++
    String.ofList ((Nat.toDigits 16 (4 * index % 2 ^ 64)).map Char.toUpper)

def complaint? (access : Access) (index : Nat) : Option String :=
  if Register.Answered index then none else some (access.complaint index)

end Access

namespace Operation

/-- The position that a read or write goes to. -/
def access? : Operation → Option (Access × Nat)
  | .busRead offset => some (.read, Device.position offset)
  | .busWrite offset _ => some (.write, Device.position offset)
  | .read index => some (.read, index)
  | .write index _ => some (.write, index)
  | _ => none

def complaint? (operation : Operation) : Option String :=
  operation.access?.bind fun (access, index) => access.complaint? index

end Operation

theorem Device.position_eq_shift (offset : UInt32) : position offset = (offset >>> 2).toNat := by
  simp [position, UInt32.toNat_shiftRight, Nat.shiftRight_eq_div_pow]

theorem Notice.text_unknownRegister (access : Access) (index : Nat) :
    (unknownRegister access index).text = access.complaint index := by
  rw [Access.complaint, Nat.mul_comm]
  rfl

/-!
## Words
-/

namespace Bank

open SoundCard.Register

variable {index : Nat} {register : Register}

theorem get_write (found : reached? index = some register) (bank : Bank) (value : UInt32) :
    (bank.write index value).get register = kept index value := by
  obtain ⟨rfl, _⟩ := reached?_eq_some_iff.mp found
  unfold write
  rw [found]
  cases register <;> simp [get_set, kept, Register.index, CodecControl.settled]

theorem shows_get (found : reached? index = some register) :
    Shows (fun bank (written : Nat × UInt32) => bank.write written.1 written.2) (fun _ => True) some
      index (get · register) (kept index) := by
  constructor
  · exact fun _ _ _ => trivial
  · rintro bank _ value _ ⟨⟩
    exact bank.get_write found value
  · rintro bank ⟨other, value⟩ _ apart
    obtain ⟨rfl, _⟩ := reached?_eq_some_iff.mp found
    refine bank.get_write_of_ne value ?_
    rintro rfl
    exact apart value rfl

end Bank

/-!
## Errors
-/

namespace Action

def error? : Action → Option String
  | .error text => some text
  | _ => none

def errors (actions : List Action) : List String :=
  actions.filterMap error?

@[simp] theorem errors_nil : errors [] = [] := rfl

@[simp] theorem errors_cons (action : Action) (rest : List Action) :
    errors (action :: rest) = action.error?.toList ++ errors rest := by
  cases told : action.error? <;> simp [errors, told]

@[simp] theorem errors_append (first second : List Action) :
    errors (first ++ second) = errors first ++ errors second :=
  List.filterMap_append

@[simp] theorem errors_notices (notices : List Notice) : errors (notices.map .notice) = [] := by
  induction notices with
  | nil => rfl
  | cons remark rest ih => exact ih

end Action

namespace Device

open SoundCard.Action SoundCard.Register

variable {σ : Type}

theorem unknownAccess_eq (access : Access) (index : Nat) :
    unknownAccess access index =
      [.notice (.unknownRegister access index), .error (access.complaint index)] := by
  rw [← Notice.text_unknownRegister]
  rfl

theorem errors_read (device : Device σ) (index : Nat) :
    errors (device.read index).2 = (Access.read.complaint? index).toList := by
  unfold read
  cases found : Register.reached? index with
  | none =>
      have hole : ¬Answered index := by simp [answered_iff, found]
      simp [Access.complaint?, hole, unknownAccess_eq, error?]
  | some register =>
      have answered : Answered index := answered_iff.mpr ⟨register, found⟩
      simp [Access.complaint?, answered, error?]

variable [Backend σ]

theorem errors_switch (device : Device σ) (channel : Channel) (active : Bool) :
    errors (device.switch channel active).2 = [] :=
  errors_notices (Backend.setActive device.backend channel active).2

theorem errors_updateVoices (device : Device σ) : errors device.updateVoices.2 = [] := by
  simp [updateVoices, errors_switch]

theorem errors_store (device : Device σ) (register : Register) (value : UInt32) :
    errors (device.store register value).2 = [] := by
  cases register with
  | codecControl =>
      unfold store
      dsimp only
      split <;> rfl
  | playbackControl | captureControl => exact errors_updateVoices _
  | _ => rfl

theorem errors_write (device : Device σ) (index : Nat) (value : UInt32) :
    errors (device.write index value).2 = (Access.write.complaint? index).toList := by
  unfold write
  cases found : Register.reached? index with
  | none =>
      have hole : ¬Answered index := by simp [answered_iff, found]
      simp [Access.complaint?, hole, unknownAccess_eq, error?]
  | some register =>
      have answered : Answered index := answered_iff.mpr ⟨register, found⟩
      simp [Access.complaint?, answered, error?, errors_store]

end Device

namespace Board

open SoundCard.Action SoundCard.Register

variable {σ : Type}

private theorem errors_observe (board : Board σ) (action : Action) :
    (board.observe action).journal.errors =
      if board.watched then action.error?.toList.foldl History.push board.journal.errors
      else board.journal.errors := by
  cases action with
  | event seen =>
      unfold observe Journal.event
      by_cases watched : board.watched = true <;>
        by_cases recording : board.journal.recording = true <;> simp [watched, recording, error?]
  | error text =>
      unfold observe Journal.error
      by_cases watched : board.watched = true <;> simp [watched, error?]
  | _ => exact (ite_self _).symm

/-- A debugger that watches keeps every error, whether or not it records events. -/
theorem errors_carryOut (board : Board σ) (actions : List Action) :
    (board.carryOut actions).journal.errors =
      if board.watched then (errors actions).foldl History.push board.journal.errors
      else board.journal.errors := by
  induction actions generalizing board with
  | nil => exact (ite_self _).symm
  | cons action rest ih =>
      have watched : (board.observe action).watched = board.watched := board.watched_carryOut [action]
      refine (ih (board.observe action)).trans ?_
      simp only [watched, errors_observe, errors_cons, List.foldl_append]
      split <;> rfl

variable [Backend σ]

theorem watched_perform (board : Board σ) (operation : Operation) :
    (board.perform operation).2.1.watched = board.watched := by
  rw [perform_eq_carryOut]
  exact watched_carryOut ..

theorem errors_perform (board : Board σ) (operation : Operation) :
    (board.perform operation).2.1.journal.errors =
      if board.watched
      then (errors (board.perform operation).2.2).foldl History.push board.journal.errors
      else board.journal.errors := by
  rw [perform_eq_carryOut]
  exact errors_carryOut ..

/-!
## Accesses
-/

theorem words_access (board : Board σ) {operation : Operation}
    (access : operation.access?.isSome = true) :
    (board.perform operation).2.1.words =
      operation.written?.toList.foldl (fun bank written => bank.write written.1 written.2)
        board.words := by
  refine (board.words_perform operation).trans ?_
  cases operation <;> first | rfl | cases access

theorem errors_access (board : Board σ) {operation : Operation}
    (access : operation.access?.isSome = true) :
    errors (board.perform operation).2.2 = operation.complaint?.toList := by
  cases operation with
  | busRead offset => exact board.device.errors_read (Device.position offset)
  | read index => exact board.device.errors_read index
  | busWrite offset value => exact board.device.errors_write (Device.position offset) value
  | write index value => exact board.device.errors_write index value
  | _ => cases access

theorem reply_read (board : Board σ) {operation : Operation} {index : Nat}
    (read : operation.access? = some (.read, index)) :
    (board.perform operation).1 = .word (board.device.read index).1 := by
  cases operation <;> cases read <;> rfl

/-- An access to a hole leaves the board alone, but for the error that a debugger keeps of it. -/
theorem perform_hole (board : Board σ) {operation : Operation} {access : Access} {index : Nat}
    (accesses : operation.access? = some (access, index)) (hole : ¬Answered index) :
    (board.perform operation).2 =
      ({ board with journal :=
          if board.watched then board.journal.error (access.complaint index) else board.journal },
        [.notice (.unknownRegister access index), .error (access.complaint index)]) := by
  have unreached : Register.reached? index = none := reached?_eq_none hole
  have carried : board.carryOut [.notice (.unknownRegister access index),
      .error (access.complaint index)] =
        { board with journal := if board.watched then board.journal.error (access.complaint index)
            else board.journal } := by
    show board.observe (.error (access.complaint index)) = _
    unfold observe
    dsimp only
    split <;> rfl
  rw [← carried, ← Device.unknownAccess_eq]
  cases operation <;> cases accesses <;>
    simp [perform, busRead, read, busWrite, write, operate, Device.read, Device.write, unreached]

/-!
## Histories
-/

theorem words_accesses (board : Board σ) {past : List Operation}
    (accesses : ∀ operation ∈ past, operation.access?.isSome = true) :
    (board.performAll past).2.1.words =
      (past.filterMap Operation.written?).foldl
        (fun bank written => bank.write written.1 written.2) board.words := by
  induction past generalizing board with
  | nil => rfl
  | cons operation rest ih =>
      obtain ⟨first, others⟩ := List.forall_mem_cons.mp accesses
      refine (ih (board.perform operation).2.1 others).trans ?_
      rw [board.words_access first, ← List.foldl_append]
      cases written : operation.written? <;> simp [written]

theorem errors_accesses (board : Board σ) {past : List Operation}
    (accesses : ∀ operation ∈ past, operation.access?.isSome = true) :
    errors (board.performAll past).2.2 = past.filterMap Operation.complaint? := by
  induction past generalizing board with
  | nil => rfl
  | cons operation rest ih =>
      obtain ⟨first, others⟩ := List.forall_mem_cons.mp accesses
      have later := ih (board.perform operation).2.1 others
      have now := board.errors_access first
      simp only [performAll, errors_append, now, later]
      cases worth : operation.complaint? <;> simp [worth]

/-- Over any history, whoever watches goes on to do so and has kept what was told. -/
theorem errors_performAll (board : Board σ) (history : List Operation) :
    (board.performAll history).2.1.watched = board.watched ∧
      (board.performAll history).2.1.journal.errors =
        if board.watched
        then (errors (board.performAll history).2.2).foldl History.push board.journal.errors
        else board.journal.errors := by
  induction history generalizing board with
  | nil => exact ⟨rfl, (ite_self _).symm⟩
  | cons operation rest ih =>
      obtain ⟨watched, later⟩ := ih (board.perform operation).2.1
      rw [watched_perform] at watched later
      refine ⟨watched, later.trans ?_⟩
      simp only [performAll, errors_perform, errors_append, List.foldl_append]
      split <;> rfl

theorem errors_powerOn (backend : σ) (memory : Memory) (journal : Journal Event) (watched : Bool) :
    (powerOn backend memory journal watched).1.watched = watched ∧
      (powerOn backend memory journal watched).1.journal.errors = journal.errors := by
  refine ⟨watched_carryOut .., (errors_carryOut ..).trans ?_⟩
  rw [errors_cons, show errors _ = [] from errors_notices _]
  exact ite_self _

theorem get_accesses (board : Board σ) {past : List Operation}
    (accesses : ∀ operation ∈ past, operation.access?.isSome = true) {index : Nat}
    {register : Register} (found : Register.reached? index = some register) :
    (board.performAll past).2.1.words.get register =
      ((latest? (past.filterMap Operation.written?) index).map (kept index)).getD
        (board.words.get register) := by
  rw [board.words_accesses accesses]
  simpa using (Bank.shows_get found).foldl trivial (past.filterMap Operation.written?)

/-- After any accesses from power on, a read gives what was written to its position last, and zero if
nothing was or if no word answers there; the command word comes without bit 0. An access to a hole
leaves the whole board as it was but for one more error of a debugger, and other accesses tell no
error, so that a debugger has kept one error of each access to a hole. -/
theorem words_independent (backend : σ) (memory : Memory) (journal : Journal Event) (watched : Bool)
    {past : List Operation} (accesses : ∀ operation ∈ past, operation.access?.isSome = true) :
    let board := ((powerOn backend memory journal watched).1.performAll past).2.1
    (∀ offset, Device.position offset = (offset >>> 2).toNat) ∧
      (∀ operation index, operation.access? = some (.read, index) →
        (board.perform operation).1 = .word (if Answered index
          then kept index ((latest? (past.filterMap Operation.written?) index).getD 0) else 0)) ∧
      (∀ index value bit, (kept index value).toNat.testBit bit =
        (decide (index ≠ 0 ∨ bit ≠ 0) && value.toNat.testBit bit)) ∧
      (∀ operation access index, operation.access? = some (access, index) → ¬Answered index →
        (board.perform operation).2 =
          ({ board with journal :=
              if watched then board.journal.error (access.complaint index) else board.journal },
            [.notice (.unknownRegister access index), .error (access.complaint index)])) ∧
      (∀ operation access index, operation.access? = some (access, index) → Answered index →
        (board.perform operation).2.1.journal.errors = board.journal.errors ∧
          errors (board.perform operation).2.2 = []) ∧
      board.journal.errors = if watched
        then (past.filterMap Operation.complaint?).foldl History.push journal.errors
        else journal.errors := by
  intro board
  let start := (powerOn backend memory journal watched).1
  obtain ⟨switched, fresh⟩ : start.watched = watched ∧ start.journal.errors = journal.errors :=
    errors_powerOn backend memory journal watched
  obtain ⟨watching, told⟩ := start.errors_performAll past
  have watches : board.watched = watched := watching.trans switched
  refine ⟨Device.position_eq_shift, ?_, testBit_kept, ?_, ?_, ?_⟩
  · intro operation index read
    rw [reply_read board read]
    by_cases answered : Answered index
    · obtain ⟨register, found⟩ := answered_iff.mp answered
      have zero : start.words.get register = kept index 0 := by
        have words : start.words = .zero := words_powerOn backend memory journal watched
        simp [words, kept]
      have last : board.words.get register = _ := start.get_accesses accesses found
      rw [zero, Option.getD_map] at last
      rw [if_pos answered, ← last, Device.read, found]
      rfl
    · rw [if_neg answered, Device.read, reached?_eq_none answered]
  · intro operation access index accessed hole
    rw [← watches]
    exact board.perform_hole accessed hole
  · intro operation access index accessed answered
    have flawless : errors (board.perform operation).2.2 = [] := by
      refine (board.errors_access (by rw [accessed]; rfl)).trans ?_
      simp [Operation.complaint?, Access.complaint?, accessed, answered]
    refine ⟨?_, flawless⟩
    rw [errors_perform, flawless]
    exact ite_self _
  · rw [told, switched, fresh, start.errors_accesses accesses]

/-- The command word written with its request bit, a control word written twice through two of its
offsets, and holes in and behind the window, while a debugger watches that does not record. -/
theorem words_independent_holes :
    let past : List Operation :=
      [.busWrite 3 7, .busWrite 0x22 1, .busWrite 0x1C 5, .busRead 0x2F, .write 8 2, .write 0 9]
    let board := ((powerOn (Queues.closed 4) (.zeros 0 16) (.empty false) true).1.performAll past).2.1
    let wrapped := "AC97 write access to unknown register 0xC"
    (∀ operation ∈ past, operation.access?.isSome = true) ∧
      (board.perform (.busRead 2)).1 = .word 8 ∧ (board.perform (.busRead 0x21)).1 = .word 2 ∧
      (board.perform (.read 7)).1 = .word 0 ∧ (board.perform (.read 1)).1 = .word 0 ∧
      board.journal.errors.entries = ["AC97 read access to unknown register 0x2C",
        "AC97 write access to unknown register 0x1C"] ∧
      (board.perform (.write (2 ^ 62 + 3) 1)).2.1 =
        { board with journal := board.journal.error wrapped } ∧
      (board.perform (.read 0)).2.1.journal.errors = board.journal.errors := by
  intro past board wrapped
  have accesses : ∀ operation ∈ past, operation.access?.isSome = true := by decide
  obtain ⟨_, reads, _, holes, answers, told⟩ :=
    words_independent (Queues.closed 4) (.zeros 0 16) (.empty false) true accesses
  have text : Access.write.complaint (2 ^ 62 + 3) = wrapped := by decide +kernel
  have hole := congrArg Prod.fst
    (holes (.write (2 ^ 62 + 3) 1) .write (2 ^ 62 + 3) rfl (by decide))
  rw [text] at hole
  refine ⟨accesses, (reads _ 0 rfl).trans (by decide +kernel), (reads _ 8 rfl).trans (by decide +kernel),
    (reads _ 7 rfl).trans (by decide), (reads _ 1 rfl).trans (by decide +kernel), ?_, hole,
    (answers _ _ 0 rfl (by decide)).1⟩
  exact (congrArg History.entries told).trans (by decide +kernel)

end Board

end SoundCard
