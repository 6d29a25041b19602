import SoundCard.Board.Run
import SoundCard.Files
import SoundCard.Text.Quoted
import SoundCard.Wave.Sink

/-!
# Streaming sound files through the card

A sound file is loaded into guest memory and played into another file, or it is spoken into the
microphone and what the card stored in guest memory is written to another file. A stream that runs
out of ticks still writes what it got so far; it can be resumed from a snapshot.

The program is written for any monad with a file system. Its notices are kept also when it fails.
-/

set_option autoImplicit false

namespace SoundCard.Stream

def memoryBase : UInt32 := 0x40000000

def defaultPeriod : Nat := 1920

def defaultMaxTicks : Nat := 100000

structure Options where
  period : Nat := defaultPeriod
  maxTicks : Nat := defaultMaxTicks
  loadState : Option String := none
  saveState : Option String := none

structure Summary where
  bytes : Nat
  completed : Bool
  deriving DecidableEq, Repr

inductive Failure where
  | cannotOpen (path : String) (cause : Wave.Fault)
  | cannotDecode (path : String) (cause : Wave.Fault)
  | wrongFormat (path : String) (spec : Wave.Spec)
  | noSamples (path : String)
  | cannotReadSnapshot (path : String) (cause : FileError)
  | snapshotRefused (refusal : Snapshot.Refusal)
  | cannotWriteSnapshot (path : String) (cause : FileError)
  | notInMemory
  | cannotCreate (path : String) (cause : Wave.Fault)
  | cannotFinish (cause : Wave.Fault)
  deriving DecidableEq, Repr

namespace Failure

def summary : Failure → String
  | cannotOpen path _ => s!"Cannot open {Quoted.quote path}"
  | cannotDecode path _ => s!"Cannot decode {Quoted.quote path}"
  | wrongFormat path spec =>
    s!"{Quoted.quote path} is {spec.rate}Hz {spec.channels}ch {spec.bits}bit, "
      ++ s!"expected {Format.voice.text}"
  | noSamples path => s!"{Quoted.quote path} contains no samples"
  | cannotReadSnapshot path _ => s!"Cannot read snapshot {Quoted.quote path}"
  | snapshotRefused refusal => refusal.message
  | cannotWriteSnapshot path _ => s!"Cannot write snapshot {Quoted.quote path}"
  | notInMemory => "Capture buffer is not backed by RAM"
  | cannotCreate path _ => s!"Cannot create {Quoted.quote path}"
  | cannotFinish cause => cause.message

def cause? : Failure → Option String
  | cannotOpen _ cause => some cause.message
  | cannotDecode _ cause => some cause.message
  | cannotReadSnapshot _ cause => some cause.message
  | cannotWriteSnapshot _ cause => some cause.message
  | cannotCreate _ cause => some cause.message
  | _ => none

def message (failure : Failure) : String :=
  match failure.cause? with
  | some cause => failure.summary ++ ": " ++ cause
  | none => failure.summary

end Failure

def layout : Wave.Layout where
  spec :=
    { channels := Format.voice.channels.toNat
      rate := Format.voice.rate.toNat
      bits := 16
      kind := .integer }
  container := Format.voice.coding.bytes

def decode (path : String) (content : List UInt8) : Except Failure (List Int16) := do
  let source ← (Wave.Source.ofBytes content).mapError (.cannotOpen path)
  unless source.layout.spec = layout.spec do throw (.wrongFormat path source.layout.spec)
  source.samples.mapError (.cannotDecode path)

/-- A computation with a file system that may fail. The notices are kept either way, last one
first. -/
abbrev Session (m : Type → Type) : Type → Type :=
  ExceptT Failure (StateT (List Notice) m)

namespace Session

variable {m : Type → Type} [Monad m]

def keep (actions : List Action) : Session m Unit :=
  modifyThe (List Notice) ((actions.filterMap Action.notice?).reverseAux ·)

def remark (notice : Notice) : Session m Unit :=
  keep [.notice notice]

def read [FileSystem m] (path : String) (failure : FileError → Failure) :
    Session m (List UInt8) := do
  match ← liftM (n := Session m) (FileSystem.read (m := m) path) with
  | .ok content => return content
  | .error cause => throw (failure cause)

def write [FileSystem m] (path : String) (content : List UInt8) (failure : FileError → Failure) :
    Session m Unit := do
  match ← liftM (n := Session m) (FileSystem.write (m := m) path content) with
  | .ok () => return
  | .error cause => throw (failure cause)

def run {α : Type} (session : Session m α) : m (Except Failure α × List Notice) := do
  let (result, notices) ← StateT.run (ExceptT.run session) []
  return (result, notices.reverse)

end Session

section

variable {m : Type → Type} [Monad m] [FileSystem m]

def readSamples (path : String) : Session m (List Int16) := do
  let content ← Session.read path fun cause => .cannotOpen path (.access cause)
  MonadExcept.ofExcept (decode path content)

/-- Writes a sound file. Samples that fill no whole frame are written, but are a failure in the
end. -/
def writeSamples (path : String) (samples : List Int16) : Session m Unit := do
  Session.write path (Wave.Sink.file layout samples) fun cause => .cannotCreate path (.access cause)
  unless Wave.Sink.finished layout samples do throw (.cannotFinish .unfinishedFrame)

def readGuestBytes (path : String) : Session m (List UInt8) := do
  let data := Sample.toBigEndian (← readSamples path)
  if data = [] then throw (.noSamples path) else return data

def boot (memory : Memory) (capacity : Nat) : Session m (Board Queues) := do
  let (board, actions) := Board.powerOn (.closed capacity) memory (.empty false) false
  Session.keep actions
  return board

def writeRegister (board : Board Queues) (register : Register) (value : UInt32) :
    Session m (Board Queues) := do
  let (board, actions) := board.busWrite register.offset value
  Session.keep actions
  return board

def arm (board : Board Queues) (channel : Channel) (count : Nat) : Session m (Board Queues) := do
  let board ← writeRegister board channel.address memoryBase
  let board ← writeRegister board channel.remaining (UInt32.ofNat count)
  writeRegister board channel.control 1

def resume (board : Board Queues) (path : String) : Session m (Board Queues) := do
  let snapshot ← Session.read path (.cannotReadSnapshot path)
  match board.load snapshot with
  | .error refusal => throw (.snapshotRefused refusal)
  | .ok (board, actions) =>
    Session.keep actions
    Session.remark (.resumed board.device.registers)
    return board

/-- Remarks a stream that ran out of ticks and writes a snapshot if one is asked for. Tells whether
the stream completed. -/
def conclude {η : Type} (run : Board.Run η) (options : Options) : Session m Bool := do
  let completed := run.outcome == .interrupt
  unless completed do
    Session.remark (.incomplete options.maxTicks run.board.device.registers)
  if let some path := options.saveState then
    Session.write path run.board.device.save (.cannotWriteSnapshot path)
  return completed

def listen (period : Nat) (heard : List (List UInt8)) (voices : Queues) :
    List (List UInt8) × Queues :=
  let (bytes, voices) := voices.drain period
  (bytes :: heard, voices)

/-- The host in front of a microphone: it gives the next period of sound, at least one byte, as long
as there is any. -/
def speak (period : Nat) (left : List UInt8) (voices : Queues) : List UInt8 × Queues :=
  if left = [] then (left, voices)
  else (left.drop (max period 1), voices.feed (left.take (max period 1)))

/-- The most bytes that the playback queue may hold: four periods, as far as that can be counted in
sixty-four bits. -/
def playbackCapacity (period : Nat) : Nat :=
  min (4 * period) (UInt64.size - 1)

def play (input output : String) (options : Options) : Session m Summary := do
  let data ← readGuestBytes input
  let memory := (Memory.zeros memoryBase data.length).write memoryBase data
  let board ← boot memory (playbackCapacity options.period)
  let board ← match options.loadState with
    | some path => resume board path
    | none => arm board .playback data.length
  let run := board.run .playbackDone options.maxTicks (listen options.period) []
  Session.keep run.actions
  let heard := run.host.reverse.flatten ++ run.board.voices.playback.toList
  let completed ← conclude run options
  writeSamples output (Sample.ofBigEndian heard)
  return ⟨heard.length, completed⟩

def record (input output : String) (options : Options) : Session m Summary := do
  let data ← readGuestBytes input
  let board ← boot (Memory.zeros memoryBase data.length) 0
  let board ← arm board .capture data.length
  let run := board.run .captureDone options.maxTicks (speak options.period) data
  Session.keep run.actions
  let completed ← conclude run options
  let captured := data.length - (run.board.device.registers.get .captureRemaining).toNat
  match run.board.memory.peek? memoryBase captured with
  | none => throw .notInMemory
  | some bytes =>
    writeSamples output (Sample.ofBigEndian bytes)
    return ⟨captured, completed⟩

end

end SoundCard.Stream
