import SoundCard.Proofs.Effects
import SoundCard.Proofs.Snapshot
import SoundCard.Voice.Queues

/-!
# Snapshots are restored whole or not at all

Columns are read one after the other from the front of a snapshot, and what a reader has taken there
is settled, whatever follows it. So a part of a snapshot cannot pass for a whole one: the reader
would find the same columns in both, and more than nothing behind them in one of the two. A snapshot
that is refused leaves the board as it was, and one that is accepted replaces the words and switches
the voices, and nothing else.
-/

set_option autoImplicit false

namespace SoundCard

/-- What the reader takes from the front of its input does not depend on what follows. -/
def Sequential {α : Type} (read : List UInt8 → Option (α × List UInt8)) : Prop :=
  ∀ (input : List UInt8) (value : α) (rest more : List UInt8),
    read input = some (value, rest) → read (input ++ more) = some (value, rest ++ more)

namespace Sequential

variable {α β : Type}

theorem pure (value : α) : Sequential fun input => some (value, input) := by
  intro input read rest more found
  obtain ⟨rfl, rfl⟩ := Prod.mk.inj (Option.some.inj found)
  rfl

theorem bind {read : List UInt8 → Option (α × List UInt8)}
    {next : α × List UInt8 → Option (β × List UInt8)} (first : Sequential read)
    (second : ∀ value, Sequential fun input => next (value, input)) :
    Sequential fun input => (read input).bind next := by
  intro input value rest more found
  obtain ⟨⟨early, middle⟩, here, there⟩ := Option.bind_eq_some_iff.mp found
  dsimp only
  rw [first input early middle more here]
  exact second early middle value rest more there

/-- A choice that is made without looking at the input. -/
theorem given {choice : Option β} {next : β → List UInt8 → Option (α × List UInt8)}
    (sequential : ∀ chosen, Sequential (next chosen)) :
    Sequential fun input => choice.bind fun chosen => next chosen input := by
  cases choice with
  | none => exact fun _ _ _ _ found => nomatch found
  | some chosen => exact sequential chosen

theorem choose {condition : Prop} [Decidable condition]
    {left right : List UInt8 → Option (α × List UInt8)} (yes : Sequential left)
    (no : Sequential right) :
    Sequential fun input => if condition then left input else right input := by
  by_cases holds : condition
  · simpa only [if_pos holds] using yes
  · simpa only [if_neg holds] using no

theorem map {read : List UInt8 → Option (α × List UInt8)} (sequential : Sequential read)
    (change : α → β) :
    Sequential fun input => (read input).map fun found => (change found.1, found.2) := by
  intro input value rest more found
  obtain ⟨⟨early, middle⟩, here, same⟩ := Option.map_eq_some_iff.mp found
  obtain ⟨rfl, rfl⟩ := Prod.mk.inj same
  dsimp only
  rw [sequential input early middle more here]
  rfl

theorem head (change : UInt8 → α) :
    Sequential fun input => input.head?.map fun byte => (change byte, input.tail) := by
  intro input value rest more found
  cases input with
  | nil => cases found
  | cons byte tail =>
      obtain ⟨rfl, rfl⟩ := Prod.mk.inj (Option.some.inj found)
      rfl

theorem split (count : Nat) : Sequential (splitBytes? count) := by
  intro input value rest more found
  unfold splitBytes? at found ⊢
  split at found
  · next enough =>
      rw [List.splitAt_eq] at found ⊢
      obtain ⟨rfl, rfl⟩ := Prod.mk.inj (Option.some.inj found)
      have longer : count ≤ (input ++ more).length := by
        rw [List.length_append]
        omega
      rw [if_pos longer, List.take_append_of_le_length enough,
        List.drop_append_of_le_length enough]
  · cases found

end Sequential

theorem ByteColumn.sequential_decode? (count : Nat) : Sequential (decode? count) := by
  have values : ∀ packing least, Sequential fun input =>
      (splitBytes? (Packing.size packing count) input).bind fun found =>
        some ((packing.unpack count found.1).map (· + least), found.2) :=
    fun packing least => .bind (.split _) fun packed =>
      .pure ((packing.unpack count packed).map (· + least))
  unfold decode?
  refine .choose (.split count) (.bind (.head UInt8.toNat) fun kind => .given fun packing => ?_)
  refine .choose (.bind (.head id) fun least => ?_) ?_
  · exact values packing least
  · exact values packing 0

theorem WordColumn.sequential_load? (count : Nat) (width : Width) :
    Sequential fun input => load? count input width := by
  cases width with
  | four => exact (Sequential.split _).map (ofWide 4 count)
  | two => exact (Sequential.split _).map (ofWide 2 count)
  | one => exact (ByteColumn.sequential_decode? count).map (List.map UInt8.toUInt32)

theorem WordColumn.sequential_decode? (count : Nat) : Sequential (decode? count) := by
  have values : ∀ (width : Width) (least : UInt32), Sequential fun input =>
      (load? count input width).bind fun found => some (found.1.map (· + least), found.2) :=
    fun width least => .bind (sequential_load? count width) fun values =>
      .pure (values.map (· + least))
  unfold decode?
  refine .bind (.head UInt8.toNat) fun kind => .given fun width => ?_
  refine .choose (.bind ((Sequential.split 4).map fun bytes =>
    UInt32.ofNat (LittleEndian.decode bytes)) fun least => ?_) ?_
  · exact values width least
  · exact values width 0

namespace Snapshot

/-- No snapshot starts with another one. -/
theorem decode?_append {input more : List UInt8} {saved : Snapshot}
    (decoded : decode? input = some saved) (longer : more ≠ []) : decode? (input ++ more) = none := by
  obtain ⟨⟨version, middle⟩, first, second⟩ := Option.bind_eq_some_iff.mp decoded
  obtain ⟨⟨words, rest⟩, later, ended⟩ := Option.bind_eq_some_iff.mp second
  cases rest with
  | cons byte others => cases ended
  | nil =>
      have versionAgain := WordColumn.sequential_decode? 1 input version middle more first
      have wordsAgain := WordColumn.sequential_decode? Register.count middle words [] more later
      simp [decode?, versionAgain, wordsAgain, longer]

end Snapshot

namespace Board

section

variable {σ : Type}

theorem carryOut_append (board : Board σ) (first second : List Action) :
    board.carryOut (first ++ second) = (board.carryOut first).carryOut second :=
  List.foldl_append

theorem carryOut_notices (board : Board σ) (notices : List Notice) :
    board.carryOut (notices.map .notice) = board := by
  induction notices with
  | nil => rfl
  | cons remark rest ih => exact ih

/-- Only the backend hears of a voice that is switched. -/
theorem carryOut_updateVoices [Backend σ] (board : Board σ) (device : Device σ) :
    board.carryOut device.updateVoices.2 = board := by
  have switched : ∀ (device : Device σ) channel active,
      board.carryOut (device.switch channel active).2 = board :=
    fun device channel active => board.carryOut_notices _
  exact (board.carryOut_append _ _).trans
    ((congrArg (carryOut · _) (switched _ .playback _)).trans (switched _ .capture _))

end

/-- The board with other words and the voices that these ask for. -/
def withWords (board : Board Queues) (words : Bank) : Board Queues :=
  let voices := { board.device.backend with
    playbackActive := words.enabled .playback
    captureActive := words.enabled .capture }
  { board with device := ⟨words, voices⟩ }

def Refuses (board : Board Queues) (input : List UInt8) : Prop :=
  ∃ refusal, board.perform (.load input) = (.refused refusal, board, [])

/-- The board takes these words from the input. Its voices follow them, and the rest stays. -/
def Restores (board : Board Queues) (input : List UInt8) (words : Bank) : Prop :=
  (board.perform (.load input)).1 = .done ∧
    (board.perform (.load input)).2.1 = board.withWords words

theorem refuses_of_decode?_eq_none (board : Board Queues) {input : List UInt8}
    (undecodable : Snapshot.decode? input = none) : board.Refuses input := by
  refine ⟨.undecodable, board.perform_load_refused ?_⟩
  rw [Snapshot.restore, undecodable]

theorem refuses_of_version (board : Board Queues) {input : List UInt8} {saved : Snapshot}
    (decoded : Snapshot.decode? input = some saved)
    (other : saved.version ≠ Snapshot.currentVersion) : board.Refuses input := by
  refine ⟨.unsupportedVersion saved.version, board.perform_load_refused ?_⟩
  rw [Snapshot.restore, decoded]
  exact if_neg other

theorem restores_of_restore (board : Board Queues) {input : List UInt8} {words : Bank}
    (restored : Snapshot.restore input = .ok words) : board.Restores input words := by
  rw [Restores, perform_load_restored board restored]
  exact ⟨rfl, carryOut_updateVoices (board.withWords words) { board.device with registers := words }⟩

theorem restores_of_decode? (board : Board Queues) {input : List UInt8} {words : Bank}
    (decoded : Snapshot.decode? input = some ⟨Snapshot.currentVersion, words⟩) :
    board.Restores input words := by
  refine board.restores_of_restore ?_
  rw [Snapshot.restore, decoded]
  exact if_pos rfl

/-- A snapshot is either restored, which replaces the words and switches the voices, or it is refused
and the board stays as it was. Whatever reads as a snapshot of the current version is restored, so
what a card has saved always is. No part of a saved snapshot is restored, none that goes on after its
end, and none of another version. -/
theorem restored_or_refused (board : Board Queues) :
    (∀ input, board.Refuses input ∨
      ∃ words, Snapshot.decode? input = some ⟨Snapshot.currentVersion, words⟩ ∧
        board.Restores input words) ∧
      (∀ input words, Snapshot.decode? input = some ⟨Snapshot.currentVersion, words⟩ →
        board.Restores input words) ∧
      (∀ saved : Device Queues, board.Restores saved.save saved.registers) ∧
      (∀ (saved : Device Queues) (input : List UInt8),
        input <+: saved.save → input ≠ saved.save → board.Refuses input) ∧
      (∀ (saved : Device Queues) (more : List UInt8),
        more ≠ [] → board.Refuses (saved.save ++ more)) ∧
      ∀ saved : Snapshot, saved.version ≠ Snapshot.currentVersion →
        board.Refuses saved.encode ∧
          ∀ input, Snapshot.decode? input = some saved → board.Refuses input := by
  refine ⟨?_, fun input words => board.restores_of_decode?,
    fun saved => board.restores_of_decode? (Snapshot.decode?_encode _), ?_, ?_, ?_⟩
  · intro input
    cases decoded : Snapshot.decode? input with
    | none => exact .inl (board.refuses_of_decode?_eq_none decoded)
    | some saved =>
        by_cases current : saved.version = Snapshot.currentVersion
        · have known : Snapshot.decode? input = some ⟨Snapshot.currentVersion, saved.registers⟩ := by
            rw [decoded, ← current]
          exact .inr ⟨saved.registers, decoded.symm.trans known, board.restores_of_decode? known⟩
        · exact .inl (board.refuses_of_version decoded current)
  · rintro saved input ⟨more, whole⟩ proper
    have longer : more ≠ [] := by
      rintro rfl
      exact proper ((List.append_nil input).symm.trans whole)
    cases decoded : Snapshot.decode? input with
    | none => exact board.refuses_of_decode?_eq_none decoded
    | some part =>
        have undecodable := Snapshot.decode?_append decoded longer
        rw [whole, Device.save, Snapshot.decode?_encode] at undecodable
        cases undecodable
  · intro saved more longer
    exact board.refuses_of_decode?_eq_none
      (Snapshot.decode?_append (Snapshot.decode?_encode _) longer)
  · intro saved other
    exact ⟨board.refuses_of_version (Snapshot.decode?_encode saved) other,
      fun input decoded => board.refuses_of_version decoded other⟩

/-- A board with sound in its queue, given a whole snapshot, one without its last byte, one with a
byte too many, and one of a later version. -/
theorem restored_or_refused_running :
    let fresh : Board Queues := (powerOn (.closed 8) (.zeros 0 16) (.empty false) false).1
    let board := (fresh.performAll [.write 6 5, .write 4 1, .playback 3]).2.1
    let saved : Device Queues := ⟨.ofWords [0, 70000, 0, 300], .closed 0⟩
    saved.save.dropLast <+: saved.save ∧ saved.save.dropLast ≠ saved.save ∧
      (2 : UInt32) ≠ Snapshot.currentVersion ∧ board.Restores saved.save saved.registers ∧
      board.Refuses saved.save.dropLast ∧
      board.Refuses (saved.save ++ [0]) ∧
      board.Refuses (Snapshot.encode ⟨2, saved.registers⟩) := by
  intro fresh board saved
  have shorter : saved.save.dropLast ≠ saved.save := by decide +kernel
  obtain ⟨_, _, whole, parts, longer, versions⟩ := restored_or_refused board
  exact ⟨List.dropLast_prefix _, shorter, by decide, whole saved,
    parts saved _ (List.dropLast_prefix _) shorter, longer saved [0] (by decide),
    (versions ⟨2, saved.registers⟩ (by decide)).1⟩

end Board

end SoundCard
