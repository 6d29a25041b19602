import SoundCard.Register
import SoundCard.Register.Control
import SoundCard.Text.Hex

/-!
# The register bank

The storage of all eleven words. `get_set` is the one law that the rest of the library needs of it.
-/

set_option autoImplicit false

namespace SoundCard

structure Bank where
  words : Vector UInt32 Register.count
  deriving DecidableEq

namespace Bank

def zero : Bank :=
  ⟨Vector.replicate Register.count 0⟩

/-- The bank with the given words in window order. Missing words are zero. -/
def ofWords (words : List UInt32) : Bank :=
  ⟨Vector.ofFn fun index => words.getD index 0⟩

def toWords (bank : Bank) : List UInt32 :=
  bank.words.toList

def get (bank : Bank) (register : Register) : UInt32 :=
  bank.words[register.index]

def set (bank : Bank) (register : Register) (value : UInt32) : Bank :=
  ⟨bank.words.set register.index value⟩

def control (bank : Bank) (channel : Channel) : ChannelControl :=
  ⟨bank.get channel.control⟩

def enabled (bank : Bank) (channel : Channel) : Bool :=
  (bank.control channel).enable

/-- Each reachable word with its name, in window order. The reserved word is left out. -/
def text (bank : Bank) : String :=
  " ".intercalate ((Register.all.filter (· ≠ .reserved)).map fun register =>
    s!"{register.name}={Hex.padded 8 (bank.get register).toNat}")

def details (bank : Bank) : String :=
  let words := ", ".intercalate (bank.toWords.map fun word => toString word.toNat)
  s!"RegisterFile \x7b words: [{words}] \x7d"

theorem get_set (bank : Bank) (register other : Register) (value : UInt32) :
    (bank.set register value).get other = if other = register then value else bank.get other := by
  by_cases same : other = register
  · subst same
    simp [get, set]
  · have apart : register.index.val ≠ other.index.val := fun equal =>
      same (Register.index_injective (Fin.ext equal.symm))
    simp [get, set, same, Vector.getElem_set_ne, apart]

@[simp] theorem get_zero (register : Register) : zero.get register = 0 := by
  cases register <;> rfl

theorem ext_get {left right : Bank} (agree : ∀ register, left.get register = right.get register) :
    left = right := by
  have words : left.words = right.words := by
    apply Vector.ext
    intro index small
    obtain ⟨register, place⟩ := Register.exists_index ⟨index, small⟩
    have here := agree register
    simp only [get, place] at here
    exact here
  cases left
  cases right
  exact congrArg Bank.mk words

end Bank

end SoundCard
