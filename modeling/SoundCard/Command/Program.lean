import SoundCard.Command.Arguments
import SoundCard.Log.Dispatch

/-!
# The program

From arguments and environment to what is printed and the exit code. Diagnostics go to standard
output through the log filter; warnings about the filter and errors go to standard error.
-/

set_option autoImplicit false

namespace SoundCard.Command

structure Environment where
  logFilter : Option String := none
  forcedColour : Option String := none

structure Report where
  exit : Nat
  output : String
  errors : String
  deriving DecidableEq, Repr

namespace Report

def joinLines (lines : List String) : String :=
  String.join (lines.map (· ++ "\n"))

def ofStop (warnings : String) : Stop → Report
  | .help text => ⟨0, text ++ "\n", warnings⟩
  | .refused refusal =>
    ⟨1, "", warnings ++ refusal.message ++ s!"\nRun {programName} --help for more information.\n"⟩

def errorText (failure : Stream.Failure) : String :=
  s!"Error: {failure.summary}\n" ++
    match failure.cause? with
    | some cause => s!"\nCaused by:\n    {cause}\n"
    | none => ""

def aborted : Nat := 101

end Report

def Job.perform {m : Type → Type} [Monad m] [FileSystem m] (job : Job) :
    Stream.Session m Stream.Summary := do
  let summary ← match job.task with
    | .play => Stream.play job.input job.output job.options
    | .record => Stream.record job.input job.output job.options
  Stream.Session.remark (.streamed summary.bytes summary.completed)
  return summary

/-- Runs the program. Asking for a trace file aborts it before it does anything, because the trace
would need a second logger in the process. -/
def run {m : Type → Type} [Monad m] [FileSystem m] (arguments : List String)
    (environment : Environment) : m Report := do
  let (dispatch, warnings) :=
    (Log.Dispatch.fresh (.ofForced environment.forcedColour)).install environment.logFilter "error"
  let warnings := Report.joinLines (warnings.map Log.FilterWarning.message)
  match Invocation.ofArguments arguments with
  | .error stop => return Report.ofStop warnings stop
  | .ok invocation =>
    if invocation.traceFile.isSome then
      return ⟨Report.aborted, "", warnings ++ "a logger is already installed\n"⟩
    else
      let (result, notices) ← invocation.job.perform.run
      let (_, lines) := dispatch.emitAll (notices.map Notice.record)
      let output := Report.joinLines lines
      match result with
      | .ok _ => return ⟨0, output, warnings⟩
      | .error failure => return ⟨1, output, warnings ++ Report.errorText failure⟩

end SoundCard.Command
