import SoundCard.Command.Program

/-!
# The command line

Runs the program on the files of the computer. Everything that is decided is decided elsewhere; this
module only carries bytes and texts in and out.
-/

set_option autoImplicit false

namespace SoundCard

/-- The number of a system error, which some accesses report with the opposite sign. -/
def FileError.systemNumber (code : UInt32) : Nat :=
  if 2 * code.toNat < UInt32.size then code.toNat else UInt32.size - code.toNat

def FileError.ofNumber (number : Nat) (text : String) : FileError :=
  match number with
  | 2 => .notFound
  | 20 => .notDirectory
  | 21 => .isDirectory
  | 36 => .nameTooLong
  | unnamed => .other text unnamed

def FileError.ofSystem (error : IO.Error) : FileError :=
  match error with
  | .noFileOrDirectory .. => .notFound
  | .inappropriateType _ code text => .ofNumber (systemNumber code) text
  | .invalidArgument _ code text => .ofNumber (systemNumber code) text
  | .permissionDenied _ code text => .ofNumber (systemNumber code) text
  | unforeseen => .other (toString unforeseen) 0

instance : FileSystem IO where
  read path := do
    try
      let content ← IO.FS.readBinFile path
      return .ok content.toList
    catch error =>
      return .error (.ofSystem error)
  write path content := do
    try
      IO.FS.writeBinFile path (ByteArray.mk content.toArray)
      return .ok ()
    catch error =>
      return .error (.ofSystem error)

end SoundCard

def main (arguments : List String) : IO UInt32 := do
  let environment : SoundCard.Command.Environment :=
    { logFilter := ← IO.getEnv "AC97_LOG"
      forcedColour := ← IO.getEnv "CLICOLOR_FORCE" }
  let report ← SoundCard.Command.run (m := IO) arguments environment
  (← IO.getStdout).putStr report.output
  (← IO.getStderr).putStr report.errors
  return UInt32.ofNat report.exit
