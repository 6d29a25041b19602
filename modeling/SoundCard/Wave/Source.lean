import SoundCard.Wave.Layout
import SoundCard.Wave.Sample

/-!
# Reading sound files

A sound file is a list of chunks behind a short tag. The format chunk comes before the data chunk,
which ends the search; other chunks are skipped. The samples themselves are read only when they are
asked for, so a file that ends inside its data can still be opened.
-/

set_option autoImplicit false

namespace SoundCard.Wave

structure Source where
  layout : Layout
  count : Nat
  /-- The bytes from the start of the data to the end of the file. -/
  body : List UInt8
  deriving DecidableEq

namespace Source

def tag (text : String) : List UInt8 :=
  text.toList.map fun letter => UInt8.ofNat letter.toNat

def scanChunk : Scan (List UInt8 × Nat) := do
  let name ← Scan.bytes 4
  let length ← Scan.number 4
  return (name, length)

abbrev Found : Type := Layout × Nat × List UInt8

/-- Looks for the data chunk in at most `steps` chunks. A later format chunk replaces an earlier
one. Of a fact chunk only the sample count is skipped, whatever the length of the chunk. -/
def findData : (steps : Nat) → Option Layout → List UInt8 → Except Fault Found
  | 0, _, _ => .error .truncated
  | steps + 1, layout, input => do
    let ((name, length), input) ← scanChunk input
    if name = tag "fmt " then
      let (layout, input) ← Layout.scan length input
      findData steps (some layout) input
    else if name = tag "fact" then
      findData steps layout (input.drop 4)
    else if name = tag "data" then
      match layout with
      | some layout => return (layout, length, input)
      | none => throw (.malformed .noFormat)
    else
      let (_, input) ← Scan.bytes length input
      findData steps layout input

/-- Opens a sound file. Every chunk takes at least eight bytes, so there are no more chunks than
bytes. -/
def ofBytes (content : List UInt8) : Except Fault Source := do
  let (riff, rest) ← Scan.bytes 4 content
  unless riff = tag "RIFF" do throw (.malformed .noRiffTag)
  let (_, rest) ← Scan.bytes 4 rest
  let (wave, rest) ← Scan.bytes 4 rest
  unless wave = tag "WAVE" do throw (.malformed .noWaveTag)
  let (layout, length, body) ← findData content.length none rest
  unless length % layout.container = 0 do throw (.malformed .dataNotSamples)
  let count := length / layout.container
  unless count % layout.spec.channels = 0 do throw (.malformed .dataNotFrames)
  return ⟨layout, count, body⟩

/-- The samples as numbers of sixteen bits. A file without samples has none, whatever its
layout. -/
def samples (source : Source) : Except Fault (List Int16) :=
  if source.count = 0 then
    .ok []
  else if 2 < source.layout.container then
    .error .tooWide
  else if source.layout.container ≠ 2 ∨ source.layout.spec.bits ≠ 16 then
    .error .unsupported
  else
    let (data, _) := source.body.splitAt (2 * source.count)
    if data.length < 2 * source.count then .error .truncated
    else .ok (Sample.ofLittleEndian data)

end Source

end SoundCard.Wave
