import SoundCard.Bytes.LittleEndian
import SoundCard.Wave.Layout
import SoundCard.Wave.Sample
import SoundCard.Wave.Source

/-!
# Writing sound files

A written file is a header of forty-four bytes and the samples.
-/

set_option autoImplicit false

namespace SoundCard.Wave

namespace Sink

def frameBytes (layout : Layout) : Nat :=
  layout.spec.channels * layout.container

def header (layout : Layout) (length : Nat) : List UInt8 :=
  Source.tag "RIFF" ++ LittleEndian.encode 4 (36 + length) ++
    Source.tag "WAVE" ++ Source.tag "fmt " ++ LittleEndian.encode 4 16 ++
    LittleEndian.encode 2 1 ++ LittleEndian.encode 2 layout.spec.channels ++
    LittleEndian.encode 4 layout.spec.rate ++
    LittleEndian.encode 4 (frameBytes layout * layout.spec.rate) ++
    LittleEndian.encode 2 (frameBytes layout) ++ LittleEndian.encode 2 layout.spec.bits ++
    Source.tag "data" ++ LittleEndian.encode 4 length

def file (layout : Layout) (samples : List Int16) : List UInt8 :=
  header layout (2 * samples.length) ++ Sample.toLittleEndian samples

/-- Whether the samples fill whole frames. A file is written either way, but it is not accepted as
finished otherwise. -/
def finished (layout : Layout) (samples : List Int16) : Bool :=
  samples.length % layout.spec.channels == 0

end Sink

end SoundCard.Wave
