import SoundCard.Voice.Backend

/-!
# Voices that follow a script

A backend whose answers are laid down in advance. It is there to show how the card copes with a
backend that answers briefly, not at all, or with more than it was offered.
-/

set_option autoImplicit false

namespace SoundCard

structure Scripted where
  limits : List Nat
  /-- The limit of every call after the list is used up. -/
  lastLimit : Nat
  microphone : List UInt8
  taken : List (List UInt8)
  playbackActive : Bool
  captureActive : Bool

namespace Scripted

/-- The limit of the next call, which offers `offered` bytes. The last limit never exceeds what is
offered, a listed one may. -/
def nextLimit (script : Scripted) (offered : Nat) : Nat × Scripted :=
  match script.limits with
  | limit :: rest => (limit, { script with limits := rest })
  | [] => (min script.lastLimit offered, script)

def played (script : Scripted) : List UInt8 :=
  script.taken.reverse.flatten

instance : Backend Scripted where
  openVoices script _ _ := (script, [])
  setActive script channel active :=
    match channel with
    | .playback => ({ script with playbackActive := active }, [])
    | .capture => ({ script with captureActive := active }, [])
  play script bytes :=
    let (limit, script) := script.nextLimit bytes.length
    (limit, { script with taken := bytes.take limit :: script.taken })
  record script room :=
    let (limit, script) := script.nextLimit room
    let stored := script.microphone.take (min limit room)
    let answer := if room < limit then limit else stored.length
    (⟨stored, answer⟩, { script with microphone := script.microphone.drop stored.length })

end Scripted

end SoundCard
