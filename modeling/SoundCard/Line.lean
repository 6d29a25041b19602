/-!
# Interrupt lines

The four lines that the card raises towards the interrupt controller, and one value per line.
-/

set_option autoImplicit false

namespace SoundCard

inductive Line where
  | codecRequest
  | codecReply
  | playbackDone
  | captureDone
  deriving DecidableEq, Repr

namespace Line

/-- Every line, in the order of their numbers on the interrupt controller. -/
def all : List Line :=
  [codecRequest, codecReply, playbackDone, captureDone]

def name : Line → String
  | codecRequest => "crrequest"
  | codecReply => "crreply"
  | playbackDone => "dmar"
  | captureDone => "dmaw"

def title : Line → String
  | codecRequest => "CodecRequest"
  | codecReply => "CodecReply"
  | playbackDone => "PlaybackDma"
  | captureDone => "CaptureDma"

theorem mem_all (line : Line) : line ∈ all := by
  cases line <;> decide

end Line

structure PerLine (α : Type) where
  codecRequest : α
  codecReply : α
  playbackDone : α
  captureDone : α
  deriving DecidableEq, Repr

namespace PerLine

variable {α : Type}

def always (value : α) : PerLine α :=
  ⟨value, value, value, value⟩

def get (values : PerLine α) : Line → α
  | .codecRequest => values.codecRequest
  | .codecReply => values.codecReply
  | .playbackDone => values.playbackDone
  | .captureDone => values.captureDone

def set (values : PerLine α) : Line → α → PerLine α
  | .codecRequest, value => { values with codecRequest := value }
  | .codecReply, value => { values with codecReply := value }
  | .playbackDone, value => { values with playbackDone := value }
  | .captureDone, value => { values with captureDone := value }

def toList (values : PerLine α) : List α :=
  Line.all.map values.get

@[simp] theorem get_always (value : α) (line : Line) : (always value).get line = value := by
  cases line <;> rfl

@[simp] theorem get_set_self (values : PerLine α) (line : Line) (value : α) :
    (values.set line value).get line = value := by
  cases line <;> rfl

theorem get_set_of_ne (values : PerLine α) {line other : Line} (value : α)
    (different : other ≠ line) : (values.set line value).get other = values.get other := by
  cases line <;> cases other <;> first | rfl | exact absurd rfl different

theorem get_set (values : PerLine α) (line other : Line) (value : α) :
    (values.set line value).get other = if other = line then value else values.get other := by
  split
  · next same => subst same; exact get_set_self ..
  · next different => exact get_set_of_ne values value different

theorem ext_get {left right : PerLine α} (agree : ∀ line, left.get line = right.get line) :
    left = right := by
  have request := agree .codecRequest
  have reply := agree .codecReply
  have playback := agree .playbackDone
  have capture := agree .captureDone
  cases left
  cases right
  simp_all [get]

end PerLine

end SoundCard
