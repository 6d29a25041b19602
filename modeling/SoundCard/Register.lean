import SoundCard.Line

/-!
# Registers and channels

The card shows eleven words to the bus. One of them is reserved: it has a name and a place in the
storage, but the bus cannot reach it. Three words each belong to the playback and the capture
channel.
-/

set_option autoImplicit false

namespace SoundCard

inductive Register where
  | codecControl
  | codecAddress
  | codecDataOut
  | codecDataIn
  | playbackControl
  | playbackAddress
  | playbackRemaining
  | reserved
  | captureControl
  | captureAddress
  | captureRemaining
  deriving DecidableEq, Repr

namespace Register

abbrev count : Nat := 11

def windowBytes : Nat := 4 * count

def all : List Register :=
  [codecControl, codecAddress, codecDataOut, codecDataIn,
    playbackControl, playbackAddress, playbackRemaining, reserved,
    captureControl, captureAddress, captureRemaining]

def index : Register → Fin count
  | codecControl => 0
  | codecAddress => 1
  | codecDataOut => 2
  | codecDataIn => 3
  | playbackControl => 4
  | playbackAddress => 5
  | playbackRemaining => 6
  | reserved => 7
  | captureControl => 8
  | captureAddress => 9
  | captureRemaining => 10

def at? (index : Nat) : Option Register :=
  all[index]?

/-- The word that a bus access to position `index` reaches. The reserved word answers to none. -/
def reached? (index : Nat) : Option Register :=
  match at? index with
  | some reserved => none
  | found => found

def offset (register : Register) : UInt32 :=
  4 * UInt32.ofNat register.index

def name : Register → String
  | codecControl => "AC97_CTRL"
  | codecAddress => "AC97_ADDR"
  | codecDataOut => "AC97_DATAOUT"
  | codecDataIn => "AC97_DATAIN"
  | playbackControl => "D_CTRL"
  | playbackAddress => "D_ADDR"
  | playbackRemaining => "D_REMAINING"
  | reserved => "RESERVED"
  | captureControl => "U_CTRL"
  | captureAddress => "U_ADDR"
  | captureRemaining => "U_REMAINING"

def title : Register → String
  | codecControl => "CodecCtrl"
  | codecAddress => "CodecAddr"
  | codecDataOut => "CodecDataOut"
  | codecDataIn => "CodecDataIn"
  | playbackControl => "PlayCtrl"
  | playbackAddress => "PlayAddr"
  | playbackRemaining => "PlayRemaining"
  | reserved => "Reserved"
  | captureControl => "CapCtrl"
  | captureAddress => "CapAddr"
  | captureRemaining => "CapRemaining"

theorem at?_index (register : Register) : at? register.index = some register := by
  cases register <;> rfl

theorem index_injective {left right : Register} (same : left.index = right.index) :
    left = right := by
  have found := at?_index left
  rw [same, at?_index right] at found
  exact (Option.some.inj found).symm

theorem exists_index (position : Fin count) : ∃ register : Register, register.index = position :=
  have table : ∀ position : Fin count, (all.get position).index = position := by
    decide
  ⟨_, table position⟩

theorem reached?_eq_some_iff {index : Nat} {register : Register} :
    reached? index = some register ↔ index = register.index ∧ register ≠ reserved := by
  constructor
  · intro found
    unfold reached? at found
    split at found
    · exact absurd found (by simp)
    · next other =>
      obtain ⟨register', place⟩ :=
        exists_index ⟨index, (List.getElem?_eq_some_iff.mp found).1⟩
      have same : index = register'.index.val := by rw [place]
      subst same
      rw [at?_index, Option.some.injEq] at found
      subst found
      exact ⟨rfl, fun isReserved => other (by rw [isReserved, at?_index])⟩
  · rintro ⟨rfl, unreserved⟩
    cases register <;> first | rfl | exact absurd rfl unreserved

end Register

inductive Channel where
  | playback
  | capture
  deriving DecidableEq, Repr

namespace Channel

def all : List Channel := [playback, capture]

def name : Channel → String
  | playback => "playback"
  | capture => "capture"

def title : Channel → String
  | playback => "Playback"
  | capture => "Capture"

def control : Channel → Register
  | playback => .playbackControl
  | capture => .captureControl

def address : Channel → Register
  | playback => .playbackAddress
  | capture => .captureAddress

def remaining : Channel → Register
  | playback => .playbackRemaining
  | capture => .captureRemaining

def line : Channel → Line
  | playback => .playbackDone
  | capture => .captureDone

end Channel

end SoundCard
