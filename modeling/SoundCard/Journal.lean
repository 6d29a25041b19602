import SoundCard.Journal.History

/-!
# Journals

What a debugger keeps of the events and errors that are reported to it. Events are kept only while
recording is switched on; errors are always kept.
-/

set_option autoImplicit false

namespace SoundCard

structure Journal (ε : Type) where
  recording : Bool
  events : History 1024 ε
  errors : History 64 String

namespace Journal

variable {ε : Type}

def empty (recording : Bool) : Journal ε where
  recording := recording
  events := .empty
  errors := .empty

def event (journal : Journal ε) (event : ε) : Journal ε :=
  if journal.recording then { journal with events := journal.events.push event } else journal

def error (journal : Journal ε) (text : String) : Journal ε :=
  { journal with errors := journal.errors.push text }

def setRecording (journal : Journal ε) (recording : Bool) : Journal ε :=
  { journal with recording }

def popEvent (journal : Journal ε) : Option ε × Journal ε :=
  let (event, events) := journal.events.pop
  (event, { journal with events })

def popError (journal : Journal ε) : Option String × Journal ε :=
  let (text, errors) := journal.errors.pop
  (text, { journal with errors })

end Journal

end SoundCard
